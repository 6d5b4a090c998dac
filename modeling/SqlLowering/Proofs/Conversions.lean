import SqlLowering.Proofs.Spelling

/-!
# Conversions in operator trees

A conversion is not written, its operand is. So an operator tree should be written like the tree
without its conversions, but an operand is put in parentheses only when it is a binary expression
itself: under a conversion it loses them. `Expr.bareOperands` counts the places where this happens.
Each costs the text a pair of parentheses, and there is no other difference.
-/

namespace SqlLowering

/-! ## Texts that lack parentheses -/

/-- A text is another one without a number of pairs of parentheses. -/
inductive Text.Lacks : Nat → String → String → Prop
  | nothing (text : String) : Lacks 0 text text
  | append {pairs pairs' : Nat} {text text' full full' : String} :
    Lacks pairs text full → Lacks pairs' text' full' →
    Lacks (pairs + pairs') (text ++ text') (full ++ full')
  | pair {pairs : Nat} {text full : String} :
    Lacks pairs text full → Lacks (pairs + 1) text ("(" ++ full ++ ")")

namespace Text.Lacks

variable {pairs : Nat} {text full : String}

theorem length (lacks : Lacks pairs text full) : full.length = text.length + 2 * pairs := by
  induction lacks with
  | nothing text => rfl
  | append _ _ first second =>
    rw [String.length_append, String.length_append, first, second]
    omega
  | pair _ ih =>
    have parentheses : "(".length = 1 ∧ ")".length = 1 := ⟨rfl, rfl⟩
    rw [String.length_append, String.length_append, ih]
    omega

theorem eq_iff (lacks : Lacks pairs text full) : text = full ↔ pairs = 0 := by
  constructor
  · intro same
    have lengths := lacks.length
    rw [same] at lengths
    omega
  · intro none
    induction lacks with
    | nothing text => rfl
    | append _ _ first second => rw [first (by omega), second (by omega)]
    | pair _ _ => cases none

/-- What stands in front of both texts makes no difference. -/
theorem behind (lacks : Lacks pairs text full) (start : String) :
    Lacks pairs (start ++ text) (start ++ full) := by
  have longer := (nothing start).append lacks
  rwa [Nat.zero_add] at longer

theorem before (lacks : Lacks pairs text full) (rest : String) :
    Lacks pairs (text ++ rest) (full ++ rest) :=
  lacks.append (nothing rest)

end Text.Lacks

/-! ## Conversions -/

/-- The signs between operands, the sign in front of one, and conversions. -/
def OperatorSet.arithmetic : OperatorSet where
  binary := BinaryOp.isInfix
  unary
    | .not => false
    | .negate | .convert _ => true
  conditional := false

/-- An operator tree with its conversions replaced by their operands. -/
def Expr.withoutConversions : Expr → Expr
  | .unary (.convert _) operand => operand.withoutConversions
  | .unary op operand => .unary op operand.withoutConversions
  | .binary op left right => .binary op left.withoutConversions right.withoutConversions
  | .conditional test ifTrue ifFalse =>
    .conditional test.withoutConversions ifTrue.withoutConversions ifFalse.withoutConversions
  | other => other

/-- Whether an expression is a binary one. -/
def Expr.isBinary : Expr → Bool
  | .binary .. => true
  | _ => false

/-- Whether an expression is a binary one under conversions. -/
def Expr.convertsBinary : Expr → Bool
  | .unary (.convert _) operand => operand.isBinary || operand.convertsBinary
  | _ => false

/-- The number of operands in an operator tree that are binary expressions under conversions. -/
def Expr.bareOperands : Expr → Nat
  | .binary _ left right =>
    left.convertsBinary.toNat + left.bareOperands +
      (right.convertsBinary.toNat + right.bareOperands)
  | .unary (.convert _) operand => operand.bareOperands
  | .unary _ operand => operand.convertsBinary.toNat + operand.bareOperands
  | _ => 0

/-- The pairs of parentheses that conversions take from an operator tree at a position. -/
def Expr.barePairs (expr : Expr) : Position → Nat
  | .whole => expr.bareOperands
  | .operand => expr.convertsBinary.toNat + expr.bareOperands

namespace Expr.BuiltBy

variable {tables : TableId → Prop} {expr : Expr}

theorem withoutConversions (built : expr.BuiltBy .arithmetic tables) :
    expr.withoutConversions.BuiltBy .arithmetic tables := by
  induction built with
  | column name type known => exact .column name type known
  | binary allowed _ _ left right => exact .binary allowed left right
  | @unary op operand allowed _ ih =>
    cases op with
    | not => cases allowed
    | negate => exact .unary allowed ih
    | convert type => exact ih
  | conditional allowed _ _ _ _ _ _ => cases allowed

/-- A tree is spelled like the tree without its conversions, except for the parentheses of the
binary expressions that a conversion hides from their operator. -/
theorem lacks_withoutConversions (built : expr.BuiltBy .arithmetic tables) (dialect : Dialect)
    (names : TableNames) (position : Position) :
    Text.Lacks (expr.barePairs position) (expr.spelling dialect names position)
      (expr.withoutConversions.spelling dialect names position) := by
  induction built generalizing position with
  | column name type known => cases position <;> exact .nothing _
  | @binary op left right allowed _ _ leftLacks rightLacks =>
    have other : op ≠ .coalesce := by
      rintro rfl
      cases allowed
    have body := ((leftLacks .operand).before (" " ++ op.sign.toOption.getD "" ++ " ")).append
      (rightLacks .operand)
    rw [Expr.withoutConversions, Expr.spelling, Expr.spelling, if_neg other, if_neg other]
    cases position with
    | whole => exact body
    | operand =>
      have pairs : (Expr.binary op left right).barePairs .operand =
          left.barePairs .operand + right.barePairs .operand := Nat.zero_add _
      rw [pairs]
      exact (body.behind "(").before ")"
  | @unary op operand allowed operandBuilt operandLacks =>
    cases op with
    | not => cases allowed
    | negate =>
      have pairs : (Expr.unary .negate operand).barePairs position =
          operand.barePairs .operand := by
        cases position with
        | whole => rfl
        | operand => exact Nat.zero_add _
      rw [pairs]
      exact (operandLacks .operand).behind "-"
    | convert type =>
      cases position with
      | whole => exact operandLacks .whole
      | operand =>
        cases operandBuilt with
        | binary _ _ _ =>
          -- The parentheses are those of an operand, but the operator sees a conversion.
          have pair := (operandLacks .whole).pair
          rw [Nat.add_comm] at pair
          exact pair
        | column _ _ _ => exact operandLacks .operand
        | @unary inner _ _ _ => cases inner <;> exact operandLacks .operand
        | conditional allowed _ _ _ => cases allowed
  | conditional allowed _ _ _ _ _ _ => cases allowed

end Expr.BuiltBy

theorem BinaryOp.isWritten_of_isInfix {op : BinaryOp} (between : op.isInfix = true) :
    op.isWritten = true := by
  rw [isWritten, between, Bool.or_true]

/-- A tree of signs and conversions is written like the tree without its conversions, except that
each operand of a sign that is a binary expression under conversions lacks its parentheses. So the
two texts are the same exactly when there is no such operand. -/
theorem Expr.written_lacks_withoutConversions {ctx : RenderContext} {state : Script.State}
    {expr : Expr} (built : expr.BuiltBy .arithmetic (state.Knows ctx)) (below : Below) :
    ∃ after full, expr.writeTo ctx below state = .ok after ∧
      expr.withoutConversions.writeTo ctx below state = .ok full ∧
      Text.Lacks expr.bareOperands after.draft.written full.draft.written ∧
      (after.draft.written = full.draft.written ↔ expr.bareOperands = 0) := by
  have writes := Expr.writeTo_of_builtBy (fun _ => BinaryOp.isWritten_of_isInfix) built below
  have writesFull := Expr.writeTo_of_builtBy (fun _ => BinaryOp.isWritten_of_isInfix)
    built.withoutConversions below
  have lacks : Text.Lacks expr.bareOperands
      (state.draft.append (expr.spelling ctx.dialect state.names .whole)).written
      (state.draft.append (expr.withoutConversions.spelling ctx.dialect state.names .whole)).written
      := by
    rw [Draft.written_append, Draft.written_append]
    exact (built.lacks_withoutConversions ctx.dialect state.names .whole).behind _
  exact ⟨_, _, writes, writesFull, lacks, lacks.eq_iff⟩

section Products

/-- The one table of the trees below. -/
def RenderContext.single : RenderContext :=
  ⟨.sqlServer, [(⟨0⟩, "t")]⟩

/-- The start of a command, with the alias of the table assigned. -/
def Script.State.single : Script.State :=
  ⟨(TableNames.empty.nameFor ⟨0⟩ "t").2, .start 4⟩

/-- A sum of two columns. -/
def Expr.sum : Expr :=
  .binary .add (.column ⟨0⟩ "A" .int32) (.column ⟨0⟩ "B" .int32)

/-- A conversion of the whole product and of a column changes nothing. -/
theorem Expr.written_convertedProduct :
    let factor := Expr.unary (.convert .int64) (.column ⟨0⟩ "C" .int32)
    let expr := Expr.unary (.convert .int64) (.binary .multiply .sum factor)
    ∃ after full, expr.writeTo .single .none .single = .ok after ∧
      expr.withoutConversions.writeTo .single .none .single = .ok full ∧
      after.draft.written = full.draft.written := by
  intro factor expr
  have known : Script.State.single.Knows .single ⟨0⟩ := ⟨⟨"t", rfl⟩, "t", rfl⟩
  have built : expr.BuiltBy .arithmetic (Script.State.single.Knows .single) :=
    .unary rfl (.binary rfl (.binary rfl (.column _ _ known) (.column _ _ known))
      (.unary rfl (.column _ _ known)))
  obtain ⟨after, full, writes, writesFull, -, same⟩ :=
    Expr.written_lacks_withoutConversions built .none
  exact ⟨after, full, writes, writesFull, same.2 rfl⟩

/-- A conversion of the sum lets the product bind stronger than the sum. -/
theorem Expr.written_convertedSum_ne :
    let expr := Expr.binary .multiply (.unary (.convert .int64) .sum) (.column ⟨0⟩ "C" .int32)
    ∃ after full, expr.writeTo .single .none .single = .ok after ∧
      expr.withoutConversions.writeTo .single .none .single = .ok full ∧
      after.draft.written = "[t].[A] + [t].[B] * [t].[C]" ∧
      full.draft.written = "([t].[A] + [t].[B]) * [t].[C]" ∧
      after.draft.written ≠ full.draft.written := by
  exact ⟨_, _, rfl, rfl, by decide, by decide, by decide⟩

end Products

end SqlLowering
