import SqlLowering.Proofs.Conversions
import SqlLowering.Proofs.Unambiguity

/-!
# Comparisons of comparisons

A comparison whose operand is a comparison needs parentheses around the inner one: SQL does not
chain comparisons. Here the text is read as tokens, outside of names in brackets, and comparisons
are counted within each pair of parentheses (`Token.areUnchained`).

A binary operand gets parentheses. A negation is written as a comparison with zero, without any, so
it is chained to a comparison or a negation that it is an operand of, and to nothing else
(`Expr.unchained_written_iff`).
-/

namespace SqlLowering

/-! ## Tokens -/

/-- What matters of a text: parentheses, comparison signs, and `AND` and `OR`. -/
inductive Token where
  | opening
  | closing
  | comparison
  | connective
deriving DecidableEq, Repr

namespace Token

/-- Where the reading of a text stands. -/
inductive Mode where
  | between
  /-- In a name in brackets. -/
  | name
  /-- In a comparison sign. -/
  | sign
  /-- In a word, after some letters. -/
  | word (letters : List Char)
deriving DecidableEq

/-- The token of the word that ends here, if a word ends here and is one. -/
def Mode.last : Mode → List Token
  | .word letters => if letters = ['A', 'N', 'D'] ∨ letters = ['O', 'R'] then [.connective] else []
  | _ => []

/-- The characters of comparison signs. -/
def isSign (c : Char) : Bool :=
  c = '=' || c = '<' || c = '>'

/-- The tokens that a character completes, and the mode behind it. Outside of names, a closing
bracket is the second one of two that stand for one, so it leads back into the name. -/
def Mode.step (mode : Mode) (c : Char) : List Token × Mode :=
  match mode with
  | .name => ([], if c = ']' then .between else .name)
  | mode =>
    if c = '[' ∨ c = ']' then (mode.last, .name)
    else if c = '(' then (mode.last ++ [.opening], .between)
    else if c = ')' then (mode.last ++ [.closing], .between)
    else if c.isWhitespace ∨ c = '.' then (mode.last, .between)
    else if isSign c then (if mode = .sign then [] else mode.last ++ [.comparison], .sign)
    else
      match mode with
      | .word letters => ([], .word (letters ++ [c]))
      | _ => ([], .word [c])

/-- The tokens of a text, and the mode behind it. -/
def scan : Mode → List Char → List Token × Mode
  | mode, [] => ([], mode)
  | mode, c :: rest =>
    let later := scan (mode.step c).2 rest
    ((mode.step c).1 ++ later.1, later.2)

/-- The tokens of a whole text. -/
def ofText (text : String) : List Token :=
  let read := scan .between text.toList
  read.1 ++ read.2.last

/-- Whether no comparison is chained to another one. `pending` is whether there has been a
comparison in the innermost open parentheses since the last connective in them, `outer` is the same
for the parentheses around them. -/
def areUnchained (pending : Bool) (outer : List Bool) : List Token → Bool
  | [] => true
  | .opening :: rest => areUnchained false (pending :: outer) rest
  | .closing :: rest => areUnchained (outer.headD false) outer.tail rest
  | .comparison :: rest => !pending && areUnchained true outer rest
  | .connective :: rest => areUnchained false outer rest

end Token

/-- Whether a text has no two comparisons in the same parentheses without `AND` or `OR` between
them. -/
def Text.isUnchained (text : String) : Bool :=
  Token.areUnchained false [] (Token.ofText text)

namespace Token

theorem scan_append (mode : Mode) (first second : List Char) :
    scan mode (first ++ second) =
      ((scan mode first).1 ++ (scan (scan mode first).2 second).1,
        (scan (scan mode first).2 second).2) := by
  induction first generalizing mode with
  | nil => rfl
  | cons c rest ih =>
    rw [List.cons_append, scan, scan, ih, List.append_assoc]

/-- A text that has these tokens and leaves nothing open. -/
def Reads (text : List Char) (tokens : List Token) : Prop :=
  scan .between text = (tokens, .between)

instance (text : List Char) (tokens : List Token) : Decidable (Reads text tokens) :=
  inferInstanceAs (Decidable (_ = _))

theorem Reads.append {first second : List Char} {tokens tokens' : List Token}
    (reads : Reads first tokens) (reads' : Reads second tokens') :
    Reads (first ++ second) (tokens ++ tokens') := by
  rw [Reads] at reads reads' ⊢
  rw [scan_append, reads, reads']

/-- A name in brackets has no tokens. -/
theorem reads_quoteIdentifier (name : String) :
    Reads (Dialect.sqlServer.quoteIdentifier name).toList [] := by
  have inside (chars : List Char) :
      scan .name (Text.doubling ']' chars ++ [']']) = ([], .between) := by
    induction chars with
    | nil => rfl
    | cons c rest ih =>
      rw [Text.doubling]
      split
      -- The first bracket leaves the name, the second one leads back.
      · exact ih
      next other => simp [scan, Mode.step, other, ih]
  rw [Reads, toList_quoteIdentifier]
  exact inside name.toList

end Token

namespace Script

/-- Whatever has been written before, the script adds a text with these tokens. -/
def Reads (script : Script) (tokens : List Token) : Prop :=
  ∀ state, ∃ text, (script.run .sqlServer state).draft = state.draft.append text ∧
    Token.Reads text.toList tokens

theorem reads_text {sql : String} {tokens : List Token} (reads : Token.Reads sql.toList tokens) :
    (text sql).Reads tokens :=
  fun _ => ⟨sql, rfl, reads⟩

/-- Whatever alias a table gets, it is a name in brackets. -/
theorem reads_tableName (id : TableId) (preferred : String) : (tableName id preferred).Reads [] :=
  fun state => ⟨_, rfl, Token.reads_quoteIdentifier (state.names.nameFor id preferred).1⟩

theorem Reads.append {first second : Script} {tokens tokens' : List Token}
    (reads : first.Reads tokens) (reads' : second.Reads tokens') :
    Reads (first ++ second) (tokens ++ tokens') := by
  intro state
  obtain ⟨text, added, tokenized⟩ := reads state
  obtain ⟨text', added', tokenized'⟩ := reads' (first.run .sqlServer state)
  refine ⟨text ++ text', ?_, ?_⟩
  · rw [run, List.foldl_append]
    refine added'.trans ?_
    rw [added, Draft.append, Draft.append, Draft.append, String.append_assoc]
  · rw [String.toList_append]
    exact tokenized.append tokenized'

end Script

/-! ## Trees of comparisons -/

/-- The six comparisons. -/
def BinaryOp.compares (op : BinaryOp) : Bool :=
  op = .equal || op = .notEqual || op = .greaterThan || op = .greaterThanOrEqual ||
    op = .lessThan || op = .lessThanOrEqual

/-- Comparisons, `AND` and `OR`, and negations. -/
def OperatorSet.logical : OperatorSet where
  binary op := op.compares || op = .and || op = .or
  unary
    | .not => true
    | _ => false
  conditional := false

/-- Whether an expression is a negation. -/
def Expr.isNot : Expr → Bool
  | .unary .not _ => true
  | _ => false

/-- Whether a negation is an operand of a comparison or of a negation, at any depth. -/
def Expr.comparesNot : Expr → Bool
  | .binary op left right =>
    left.comparesNot || right.comparesNot || op.compares && (left.isNot || right.isNot)
  | .unary .not operand => operand.comparesNot || operand.isNot
  | _ => false

/-- The token of a sign. -/
def BinaryOp.token (op : BinaryOp) : Token :=
  if op.compares then .comparison else .connective

/-- The parentheses of a binary expression as an operand. -/
def Position.tokens : Position → List Token → List Token
  | .whole, tokens => tokens
  | .operand, tokens => .opening :: (tokens ++ [.closing])

/-- The tokens of a tree. -/
def Expr.tokens (position : Position) : Expr → List Token
  | .binary op left right =>
    position.tokens (left.tokens .operand ++ [op.token] ++ right.tokens .operand)
  | .unary .not operand => .comparison :: operand.tokens .operand
  | _ => []

theorem Token.reads_sign {op : BinaryOp} (allowed : OperatorSet.logical.binary op = true) :
    ∃ sign, op.sign = .ok sign ∧ Token.Reads (" " ++ sign ++ " ").toList [op.token] := by
  cases op with
  | and | or | equal | notEqual | greaterThan | greaterThanOrEqual | lessThan | lessThanOrEqual =>
    exact ⟨_, rfl, by decide⟩
  | _ => cases allowed

theorem Script.Reads.around {body : Script} {tokens : List Token} (reads : body.Reads tokens)
    (position : Position) : Script.Reads (position.around body) (position.tokens tokens) := by
  cases position with
  | whole => exact reads
  | operand =>
    have opened : (Script.text "(").Reads [.opening] := Script.reads_text (by decide)
    have closed : (Script.text ")").Reads [.closing] := Script.reads_text (by decide)
    exact (opened.append reads).append closed

/-- A table of the query. -/
def RenderContext.Declares (ctx : RenderContext) (id : TableId) : Prop :=
  ∃ preferred, ctx.tables.lookup id = some preferred

/-- A tree over declared tables has a script, and what the script adds has the tokens of the
tree. -/
theorem Expr.BuiltBy.exists_reads {ctx : RenderContext} (dialect : ctx.dialect = .sqlServer)
    {expr : Expr} (built : expr.BuiltBy .logical ctx.Declares) (below : Below)
    (position : Position) :
    ∃ script, expr.render ctx below position = .ok script ∧
      script.Reads (expr.tokens position) := by
  induction built generalizing position with
  | @column table name type declared =>
    obtain ⟨preferred, found⟩ := declared
    refine ⟨_, by rw [Expr.render, RenderContext.tableName, found]; rfl, ?_⟩
    have dot : (Script.text ".").Reads [] := Script.reads_text (by decide)
    rw [RenderContext.identifier, dialect]
    exact ((Script.reads_tableName table preferred).append dot).append
      (Script.reads_text (Token.reads_quoteIdentifier name))
  | @binary op left right allowed leftBuilt rightBuilt leftReads rightReads =>
    obtain ⟨first, leftRendered, firstReads⟩ := leftReads .operand
    obtain ⟨second, rightRendered, secondReads⟩ := rightReads .operand
    obtain ⟨sign, signed, signReads⟩ := Token.reads_sign allowed
    have sent := (Expr.BuiltBy.binary allowed leftBuilt rightBuilt).isHoisted
    have scalar : ∀ fields, left ≠ .record fields := by
      rintro fields rfl
      cases leftBuilt
    refine ⟨_, Expr.render_of_sign position signed sent scalar leftRendered rightRendered, ?_⟩
    exact ((firstReads.append (Script.reads_text signReads)).append secondReads).around position
  | @unary op operand allowed operandBuilt operandReads =>
    have sent := (Expr.BuiltBy.unary allowed operandBuilt).isHoisted
    cases op with
    | not =>
      obtain ⟨script, operandRendered, reads⟩ := operandReads .operand
      have zero : (Script.text "0 = ").Reads [.comparison] := Script.reads_text (by decide)
      refine ⟨_, ?_, zero.append reads⟩
      rw [Expr.render, sent, operandBuilt.takesNot, operandRendered]
      rfl
    | _ => cases allowed
  | conditional allowed => cases allowed

/-! ## Chains -/

/-- How a tree goes together with what is around it as an operand: it is chained to a comparison in
front of it or behind it only if it is a negation. -/
def Expr.ChainsAsOperand (expr : Expr) : Prop :=
  ∀ pending outer rest, Token.areUnchained pending outer (expr.tokens .operand ++ rest) =
    (!expr.comparesNot && !(expr.isNot && pending) &&
      Token.areUnchained (expr.isNot || pending) outer rest)

/-- A binary tree without parentheses around it. -/
theorem Token.areUnchained_binary (op : BinaryOp) {left right : Expr}
    (leftChains : left.ChainsAsOperand) (rightChains : right.ChainsAsOperand) (outer : List Bool)
    (rest : List Token) :
    areUnchained false outer
        (left.tokens .operand ++ [op.token] ++ right.tokens .operand ++ rest) =
      (!(Expr.binary op left right).comparesNot &&
        areUnchained (op.compares || right.isNot) outer rest) := by
  rw [List.append_assoc, List.append_assoc, leftChains, List.singleton_append, Expr.comparesNot,
    BinaryOp.token]
  cases op.compares with
  | false =>
    rw [if_neg Bool.false_ne_true, areUnchained, rightChains]
    simp [Bool.and_assoc]
  | true =>
    rw [if_pos rfl, areUnchained, rightChains]
    cases left.isNot <;> cases right.isNot <;> simp [Bool.and_assoc]

/-- Every tree is chained as an operand only if it is a negation. -/
theorem Expr.chainsAsOperand : ∀ expr : Expr, expr.ChainsAsOperand
  | .binary op left right => by
    intro pending outer rest
    have body := Token.areUnchained_binary op left.chainsAsOperand right.chainsAsOperand
      (pending :: outer) (.closing :: rest)
    rw [Expr.tokens, Position.tokens, List.cons_append, List.append_assoc _ [Token.closing],
      List.singleton_append, Token.areUnchained, body]
    simp [Expr.isNot, Token.areUnchained]
  | .unary .not operand => by
    intro pending outer rest
    rw [Expr.tokens, List.cons_append, Token.areUnchained, operand.chainsAsOperand,
      Expr.comparesNot, Expr.isNot]
    cases operand.isNot <;> cases pending <;> simp
  | .unary .negate _ | .unary (.convert _) _ | .conditional .. | .record _ | .column ..
  | .aliased .. | .constant .. | .input .. | .function .. | .fragment .. | .cast .. | .exists _
  | .isIn .. | .aggregate .. | .subquery .. | .array .. | .member .. | .parameter ..
  | .defaultIfEmpty .. => fun _ _ _ => rfl

/-- A tree as a whole has a chain where it compares a negation. -/
theorem Expr.areUnchained_tokens (expr : Expr) :
    Token.areUnchained false [] (expr.tokens .whole) = !expr.comparesNot := by
  cases expr with
  | binary op left right =>
    have body := Token.areUnchained_binary op left.chainsAsOperand right.chainsAsOperand [] []
    rw [List.append_nil] at body
    rw [Expr.tokens, Position.tokens, body, Token.areUnchained, Bool.and_true]
  | unary op operand =>
    cases op with
    | not =>
      -- A negation is written alike everywhere.
      have alone := (Expr.unary .not operand).chainsAsOperand false [] []
      rw [List.append_nil] at alone
      refine alone.trans ?_
      simp [Token.areUnchained]
    | _ => rfl
  | _ => rfl

theorem Token.Reads.ofText {text : String} {tokens : List Token}
    (reads : Reads text.toList tokens) : Token.ofText text = tokens := by
  rw [Token.ofText, reads]
  exact List.append_nil tokens

/-- What is written for a tree of comparisons, `AND`, `OR` and negations has no chained comparisons
if and only if no negation is an operand of a comparison or of a negation. -/
theorem Expr.unchained_written_iff {ctx : RenderContext} (dialect : ctx.dialect = .sqlServer)
    {expr : Expr} (built : expr.BuiltBy .logical ctx.Declares) (below : Below)
    (state : Script.State) :
    ∃ after text, expr.writeTo ctx below state = .ok after ∧
      after.draft.written = state.draft.written ++ text ∧
      (Text.isUnchained text = true ↔ expr.comparesNot = false) := by
  obtain ⟨script, rendered, reads⟩ := built.exists_reads dialect below .whole
  obtain ⟨text, added, tokenized⟩ := reads state
  refine ⟨script.run .sqlServer state, text, ?_, ?_, ?_⟩
  · rw [Expr.writeTo, rendered, dialect]
    rfl
  · rw [added, Draft.written_append]
  · rw [Text.isUnchained, tokenized.ofText, expr.areUnchained_tokens, Bool.not_eq_true']

section Negations

/-- A column of truth values of the one table. -/
def Expr.flag (name : String) : Expr :=
  .column ⟨0⟩ name .bool

/-- Negations may stand beside `AND` and `OR`, and comparisons of those in comparisons. -/
theorem Expr.unchained_nestedNegations :
    let either := Expr.binary .or (.unary .not (.flag "C")) (.flag "D")
    let expr := Expr.binary .and (.unary .not (.flag "A")) (.binary .equal (.flag "B") either)
    ∃ after text, expr.writeTo .single .none .single = .ok after ∧
      after.draft.written = Script.State.single.draft.written ++ text ∧
      Text.isUnchained text = true := by
  intro either expr
  have flag (name : String) : (Expr.flag name).BuiltBy .logical RenderContext.single.Declares :=
    .column name .bool ⟨"t", rfl⟩
  have built : expr.BuiltBy .logical RenderContext.single.Declares :=
    .binary rfl (.unary rfl (flag "A"))
      (.binary rfl (flag "B") (.binary rfl (.unary rfl (flag "C")) (flag "D")))
  obtain ⟨after, text, writes, written, unchained⟩ :=
    Expr.unchained_written_iff rfl built .none .single
  exact ⟨after, text, writes, written, unchained.2 rfl⟩

/-- A negation that is compared, and one that is negated, are chained. -/
theorem Expr.chained_comparedNegation :
    let negated := Expr.unary .not (.flag "A")
    (∃ after, (Expr.binary .equal negated (.flag "B")).writeTo .single .none .single = .ok after ∧
      after.draft.written = "0 = [t].[A] = [t].[B]" ∧
      Text.isUnchained after.draft.written = false) ∧
    ∃ after, (Expr.unary .not negated).writeTo .single .none .single = .ok after ∧
      after.draft.written = "0 = 0 = [t].[A]" ∧
      Text.isUnchained after.draft.written = false := by
  exact ⟨⟨_, rfl, by decide, by decide⟩, ⟨_, rfl, by decide, by decide⟩⟩

end Negations

end SqlLowering
