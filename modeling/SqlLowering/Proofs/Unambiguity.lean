import SqlLowering.Proofs.Spelling

/-!
# Operator trees can be read back from their text

Two trees of written operators over columns that are spelled alike are the same tree, up to the
static types of their columns (`Expr.BuiltBy.spelling_eq_iff`). Parentheses are put around a binary
operand and around nothing else, names may hold any characters, and conditionals open with a
parenthesis too, so this takes an argument about where each part of the text ends.

Every spelling ends where it must, whatever follows, as long as what follows does not go on with it
(`Expr.Decodes`). Behind an operand, only a closing bracket could; behind a whole tree, also a sign.
A name in brackets ends at the first bracket that stands alone, and equal aliases belong to equal
tables because the assignment of aliases is injective.
-/

namespace SqlLowering

/-! ## Names in brackets -/

/-- Doubled text ends at the first mark that stands alone. -/
theorem Text.doubling_append_inj {mark : Char} {text text' rest rest' : List Char}
    (ends : rest.head? ≠ some mark) (ends' : rest'.head? ≠ some mark)
    (same : Text.doubling mark text ++ mark :: rest = Text.doubling mark text' ++ mark :: rest') :
    text = text' ∧ rest = rest' := by
  induction text generalizing text' with
  | nil =>
    cases text' with
    | nil => exact ⟨rfl, (List.cons.inj same).2⟩
    | cons c others =>
      rw [Text.doubling, Text.doubling] at same
      split at same
      · rw [List.nil_append, List.cons_append, List.cons_append, List.cons.injEq] at same
        exact absurd (by rw [same.2, List.head?_cons]) ends
      next other => exact absurd (List.cons.inj same).1.symm other
  | cons c others ih =>
    cases text' with
    | nil =>
      rw [Text.doubling, Text.doubling] at same
      split at same
      · rw [List.nil_append, List.cons_append, List.cons_append, List.cons.injEq] at same
        exact absurd (by rw [← same.2, List.head?_cons]) ends'
      next other => exact absurd (List.cons.inj same).1 other
    | cons c' others' =>
      rw [Text.doubling, Text.doubling] at same
      split at same <;> split at same
      next marked marked' =>
        obtain ⟨rfl, rfl⟩ := ih (List.cons.inj (List.cons.inj same).2).2
        exact ⟨by rw [marked, marked'], rfl⟩
      next marked other => exact absurd (List.cons.inj same).1.symm other
      next other marked => exact absurd (List.cons.inj same).1 other
      next =>
        obtain ⟨heads, tails⟩ := List.cons.inj same
        obtain ⟨rfl, rfl⟩ := ih tails
        exact ⟨by rw [heads], rfl⟩

theorem toList_quoteIdentifier (name : String) :
    (Dialect.sqlServer.quoteIdentifier name).toList =
      '[' :: (Text.doubling ']' name.toList ++ [']']) := by
  simp [Dialect.sqlServer, Text.quoted]

/-- A quoted name ends where it is closed, unless another closing bracket follows. -/
theorem quoteIdentifier_append_inj {name name' : String} {rest rest' : List Char}
    (ends : rest.head? ≠ some ']') (ends' : rest'.head? ≠ some ']')
    (same : (Dialect.sqlServer.quoteIdentifier name).toList ++ rest =
      (Dialect.sqlServer.quoteIdentifier name').toList ++ rest') :
    name = name' ∧ rest = rest' := by
  rw [toList_quoteIdentifier, toList_quoteIdentifier] at same
  simp only [List.cons_append, List.append_assoc, List.nil_append, List.cons.injEq,
    true_and] at same
  obtain ⟨names, rests⟩ := Text.doubling_append_inj ends ends' same
  exact ⟨String.toList_injective names, rests⟩

/-! ## Signs -/

/-- A sign has no blank in it, so it ends at the blank behind it. -/
theorem BinaryOp.blank_notMem_sign {op : BinaryOp} {sign : String} (signed : op.sign = .ok sign) :
    ' ' ∉ sign.toList := by
  cases op <;> cases signed <;> decide

theorem BinaryOp.find_sign {op : BinaryOp} {sign : String} (signed : op.sign = .ok sign) :
    BinaryOp.all.find? (fun other => other.sign.toOption = some sign) = some op := by
  cases op <;> cases signed <;> rfl

/-- A word without blanks ends at the first blank, so two texts that agree have the same first word.
-/
theorem append_blank_inj {word word' rest rest' : List Char} (noBlank : ' ' ∉ word)
    (noBlank' : ' ' ∉ word') (same : word ++ ' ' :: rest = word' ++ ' ' :: rest') :
    word = word' ∧ rest = rest' := by
  have first : ∀ {word rest : List Char}, ' ' ∉ word →
      (word ++ ' ' :: rest).takeWhile (· ≠ ' ') = word := by
    intro word rest noBlank
    rw [List.takeWhile_append_of_pos]
    · simp
    · intro c member
      rw [decide_eq_true_eq]
      rintro rfl
      exact noBlank member
  have words := congrArg (List.takeWhile (· ≠ ' ')) same
  rw [first noBlank, first noBlank'] at words
  subst words
  exact ⟨rfl, (List.cons.inj (List.append_cancel_left same)).2⟩

theorem BinaryOp.sign_append_inj {op op' : BinaryOp} {sign sign' : String}
    (signed : op.sign = .ok sign) (signed' : op'.sign = .ok sign') {rest rest' : List Char}
    (same : sign.toList ++ ' ' :: rest = sign'.toList ++ ' ' :: rest') :
    op = op' ∧ rest = rest' := by
  obtain ⟨signs, rests⟩ := append_blank_inj (blank_notMem_sign signed) (blank_notMem_sign signed')
    same
  have found := find_sign signed
  rw [String.toList_injective signs, find_sign signed', Option.some.injEq] at found
  exact ⟨found.symm, rests⟩

/-! ## Where spellings end -/

/-- What follows a whole tree goes on neither with a name nor with a sign. -/
structure EndsTree (rest : List Char) : Prop where
  bracket : rest.head? ≠ some ']'
  sign : ∀ {op : BinaryOp} {sign : String}, op.sign = .ok sign →
    ∀ later, rest ≠ ' ' :: (sign.toList ++ ' ' :: later)

/-- What may follow a spelling at a position. -/
def Position.Ends : Position → List Char → Prop
  | .operand, rest => rest.head? ≠ some ']'
  | .whole, rest => EndsTree rest

theorem Position.Ends.bracket {position : Position} {rest : List Char} (ends : position.Ends rest) :
    rest.head? ≠ some ']' := by
  cases position with
  | whole => exact EndsTree.bracket ends
  | operand => exact ends

theorem Position.ends_blank (rest : List Char) : Position.operand.Ends (' ' :: rest) := by
  simp [Ends]

theorem endsTree_nil : EndsTree [] :=
  ⟨by simp, by simp⟩

/-- What stands behind the parts of a call and of a conditional. -/
def closers : List String :=
  [", ", ")", " THEN ", " ELSE ", " END)"]

theorem endsTree_closer {word : String} (closes : word ∈ closers) (rest : List Char) :
    EndsTree (word.toList ++ rest) := by
  simp only [closers, List.mem_cons, List.not_mem_nil, or_false] at closes
  rcases closes with rfl | rfl | rfl | rfl | rfl
  all_goals
    refine ⟨by simp, ?_⟩
    intro op sign signed later same
    cases op <;> cases signed <;> simp at same

/-! ## Reading trees back -/

/-- The operators that have a rule, of two operands or of three. -/
def OperatorSet.written : OperatorSet :=
  ⟨BinaryOp.isWritten, fun _ => false, true⟩

/-- Equality of trees up to the types of their columns. -/
inductive Expr.SameTree : Expr → Expr → Prop
  | column (table : TableId) (name : String) (type type' : DataType) :
    Expr.SameTree (.column table name type) (.column table name type')
  | binary {left left' right right' : Expr} (op : BinaryOp) :
    left.SameTree left' → right.SameTree right' →
    Expr.SameTree (.binary op left right) (.binary op left' right')
  | conditional {test test' ifTrue ifTrue' ifFalse ifFalse' : Expr} :
    test.SameTree test' → ifTrue.SameTree ifTrue' → ifFalse.SameTree ifFalse' →
    Expr.SameTree (.conditional test ifTrue ifFalse) (.conditional test' ifTrue' ifFalse')

theorem Expr.SameTree.spelling_eq {expr expr' : Expr} (same : expr.SameTree expr')
    (dialect : Dialect) (names : TableNames) (position : Position) :
    expr.spelling dialect names position = expr'.spelling dialect names position := by
  induction same generalizing position with
  | column table name type type' => rfl
  | binary op _ _ left right => simp only [Expr.spelling, left, right]
  | conditional _ _ _ test ifTrue ifFalse => simp only [Expr.spelling, test, ifTrue, ifFalse]

/-- The tables that have an alias. -/
def TableNames.Has (names : TableNames) (id : TableId) : Prop :=
  ∃ chosen, names.assigned.lookup id = some chosen

theorem TableNames.Consistent.chosen_inj {names : TableNames} (consistent : names.Consistent)
    {id id' : TableId} (has : names.Has id) (has' : names.Has id')
    (same : names.chosen id = names.chosen id') : id = id' := by
  obtain ⟨chosen, named⟩ := has
  obtain ⟨chosen', named'⟩ := has'
  rw [TableNames.chosen, TableNames.chosen, named, named', Option.getD_some, Option.getD_some]
    at same
  exact consistent.id_eq named (by rw [named', same])

section Reading

variable {names : TableNames}

/-- The characters of a tree. -/
def Expr.chars (names : TableNames) (position : Position) (expr : Expr) : List Char :=
  (expr.spelling .sqlServer names position).toList

/-- The trees that are read back. -/
abbrev Expr.IsTree (names : TableNames) (expr : Expr) : Prop :=
  expr.BuiltBy .written names.Has

/-- The tree can be told from every other at this position, whatever follows either of them. -/
def Expr.Decodes (names : TableNames) (position : Position) (expr : Expr) : Prop :=
  ∀ (expr' : Expr) (rest rest' : List Char), expr'.IsTree names →
    position.Ends rest → position.Ends rest' →
    expr.chars names position ++ rest = expr'.chars names position ++ rest' →
    expr.SameTree expr' ∧ rest = rest'

theorem Expr.chars_column (position : Position) (table : TableId) (name : String)
    (type : DataType) : (Expr.column table name type).chars names position =
      (Dialect.sqlServer.quoteIdentifier (names.chosen table)).toList ++
        '.' :: (Dialect.sqlServer.quoteIdentifier name).toList := by
  simp [chars, spelling]

theorem Expr.chars_conditional (position : Position) (test ifTrue ifFalse : Expr) :
    (Expr.conditional test ifTrue ifFalse).chars names position =
      "(CASE WHEN ".toList ++ (test.chars names .whole ++ (" THEN ".toList ++
        (ifTrue.chars names .whole ++ (" ELSE ".toList ++
          (ifFalse.chars names .whole ++ " END)".toList))))) := by
  simp only [chars, spelling, String.toList_append, List.append_assoc]

theorem Expr.chars_coalesce (left right : Expr) :
    (Expr.binary .coalesce left right).chars names .whole =
      "COALESCE(".toList ++ (left.chars names .whole ++
        (", ".toList ++ (right.chars names .whole ++ ")".toList))) := by
  simp only [chars, spelling, Position.enclose, if_true, String.toList_append, List.append_assoc]

theorem Expr.chars_signed {op : BinaryOp} {sign : String} (signed : op.sign = .ok sign)
    (left right : Expr) :
    (Expr.binary op left right).chars names .whole =
      left.chars names .operand ++ ' ' :: (sign.toList ++ ' ' :: right.chars names .operand) := by
  have other : op ≠ .coalesce := by
    rintro rfl
    cases signed
  simp [chars, spelling, Position.enclose, other, signed, Except.toOption]

theorem Expr.chars_operand (op : BinaryOp) (left right : Expr) :
    (Expr.binary op left right).chars names .operand =
      '(' :: ((Expr.binary op left right).chars names .whole ++ ")".toList) := by
  simp [chars, spelling, Position.enclose]

/-- The ways to spell a whole tree: by itself, with a sign or by a call. -/
theorem Expr.BuiltBy.whole_cases {expr : Expr} (tree : expr.IsTree names) :
    (∃ left right, left.IsTree names ∧ right.IsTree names ∧ expr = .binary .coalesce left right) ∨
      expr.chars names .whole = expr.chars names .operand ∨
      ∃ op sign left right, left.IsTree names ∧ right.IsTree names ∧
        BinaryOp.sign op = .ok sign ∧ expr = .binary op left right := by
  cases tree with
  | column name type has => exact .inr (.inl rfl)
  | @binary op left right allowed leftTree rightTree =>
    rcases BinaryOp.cases_of_isWritten allowed with rfl | ⟨sign, signed⟩
    · exact .inl ⟨left, right, leftTree, rightTree, rfl⟩
    · exact .inr (.inr ⟨op, sign, left, right, leftTree, rightTree, signed, rfl⟩)
  | unary allowed operand => cases allowed
  | conditional allowed test ifTrue ifFalse => exact .inr (.inl rfl)

/-- An operand opens with a bracket or a parenthesis, so it is not taken for a call. -/
theorem Expr.BuiltBy.operand_ne_call {expr : Expr} (tree : expr.IsTree names)
    (rest later : List Char) : expr.chars names .operand ++ rest ≠ 'C' :: later := by
  cases tree with
  | column name type has => simp [chars_column, toList_quoteIdentifier]
  | binary allowed left right => simp [chars_operand]
  | unary allowed operand => cases allowed
  | conditional allowed test ifTrue ifFalse => simp [chars_conditional]

/-- A binary tree does not open like a conditional behind its parenthesis. -/
theorem Expr.BuiltBy.whole_ne_case {op : BinaryOp} {left right : Expr}
    (tree : (Expr.binary op left right).IsTree names) (rest later : List Char) :
    (Expr.binary op left right).chars names .whole ++ rest ≠ 'C' :: 'A' :: later := by
  cases tree with
  | binary allowed leftTree rightTree =>
    rcases BinaryOp.cases_of_isWritten allowed with rfl | ⟨sign, signed⟩
    · simp [chars_coalesce]
    · rw [chars_signed signed, List.append_assoc]
      exact leftTree.operand_ne_call _ _

/-- A column can be told from every other operand by its alias and its name. -/
theorem Expr.decodes_column (consistent : names.Consistent) {table : TableId}
    (has : names.Has table) (name : String) (type : DataType) :
    (Expr.column table name type).Decodes names .operand := by
  intro expr' rest rest' tree ends ends' same
  cases tree with
  | @column table' name' type' has' =>
    simp only [chars_column, List.append_assoc, List.cons_append] at same
    obtain ⟨aliases, later⟩ := quoteIdentifier_append_inj (by simp) (by simp) same
    obtain ⟨rfl, rests⟩ := quoteIdentifier_append_inj ends ends' (List.cons.inj later).2
    obtain rfl := consistent.chosen_inj has has' aliases
    exact ⟨.column table name type type', rests⟩
  | binary allowed left right => simp [chars_column, chars_operand, toList_quoteIdentifier] at same
  | unary allowed operand => cases allowed
  | conditional allowed test ifTrue ifFalse =>
    simp [chars_column, chars_conditional, toList_quoteIdentifier] at same

/-- A conditional can be told from every other operand if its three parts can be told from others.
-/
theorem Expr.decodes_conditional {test ifTrue ifFalse : Expr}
    (testDecodes : test.Decodes names .whole) (trueDecodes : ifTrue.Decodes names .whole)
    (falseDecodes : ifFalse.Decodes names .whole) :
    (Expr.conditional test ifTrue ifFalse).Decodes names .operand := by
  intro expr' rest rest' tree ends ends' same
  cases tree with
  | column name type has => simp [chars_column, chars_conditional, toList_quoteIdentifier] at same
  | binary allowed left right =>
    simp only [chars_conditional, chars_operand, List.append_assoc, List.cons_append] at same
    exact absurd (List.cons.inj same).2.symm
      ((Expr.BuiltBy.binary allowed left right).whole_ne_case _ _)
  | unary allowed operand => cases allowed
  | conditional allowed testTree trueTree falseTree =>
    simp only [chars_conditional, List.append_assoc] at same
    -- The parts are read from left to right, each up to the word behind it.
    obtain ⟨sameTest, same⟩ := testDecodes _ _ _ testTree (endsTree_closer (by decide) _)
      (endsTree_closer (by decide) _) (List.append_cancel_left same)
    obtain ⟨sameTrue, same⟩ := trueDecodes _ _ _ trueTree (endsTree_closer (by decide) _)
      (endsTree_closer (by decide) _) (List.append_cancel_left same)
    obtain ⟨sameFalse, same⟩ := falseDecodes _ _ _ falseTree (endsTree_closer (by decide) _)
      (endsTree_closer (by decide) _) (List.append_cancel_left same)
    exact ⟨.conditional sameTest sameTrue sameFalse, List.append_cancel_left same⟩

/-- A tree that is spelled alike at both positions can be told from all others at both. -/
theorem Expr.Decodes.whole {expr : Expr} (decodes : expr.Decodes names .operand)
    (tree : expr.IsTree names) (alike : expr.chars names .whole = expr.chars names .operand) :
    expr.Decodes names .whole := by
  intro expr' rest rest' tree' ends ends' same
  rw [alike] at same
  rcases tree'.whole_cases with ⟨left, right, -, -, rfl⟩ | alike' |
    ⟨op, sign, left, right, leftTree, -, signed, rfl⟩
  · rw [chars_coalesce] at same
    exact absurd same (tree.operand_ne_call _ _)
  · rw [alike'] at same
    exact decodes _ _ _ tree' ends.bracket ends'.bracket same
  · simp only [chars_signed signed, List.append_assoc, List.cons_append] at same
    obtain ⟨-, rests⟩ := decodes _ _ _ leftTree ends.bracket (Position.ends_blank _) same
    exact absurd rests (EndsTree.sign ends signed _)

/-- An operator with a sign can be told from every other expression if its operands can. -/
theorem Expr.decodes_signed {op : BinaryOp} {sign : String} (signed : op.sign = .ok sign)
    {left right : Expr} (leftTree : left.IsTree names) (leftDecodes : left.Decodes names .operand)
    (rightDecodes : right.Decodes names .operand) :
    (Expr.binary op left right).Decodes names .whole := by
  intro expr' rest rest' tree ends ends' same
  simp only [chars_signed signed, List.append_assoc, List.cons_append] at same
  rcases tree.whole_cases with ⟨left', right', -, -, rfl⟩ | alike |
    ⟨op', sign', left', right', leftTree', rightTree', signed', rfl⟩
  · rw [chars_coalesce] at same
    exact absurd same (leftTree.operand_ne_call _ _)
  · -- The other tree would end where the sign stands, and a sign does not follow a whole tree.
    rw [alike] at same
    obtain ⟨-, rests⟩ := leftDecodes _ _ _ tree (Position.ends_blank _) ends'.bracket same
    exact absurd rests.symm (EndsTree.sign ends' signed _)
  · simp only [chars_signed signed', List.append_assoc, List.cons_append] at same
    obtain ⟨sameLeft, same⟩ := leftDecodes _ _ _ leftTree' (Position.ends_blank _)
      (Position.ends_blank _) same
    obtain ⟨rfl, same⟩ := BinaryOp.sign_append_inj signed signed' (List.cons.inj same).2
    obtain ⟨sameRight, rests⟩ := rightDecodes _ _ _ rightTree' ends.bracket ends'.bracket same
    exact ⟨.binary op sameLeft sameRight, rests⟩

/-- A choice of the first value can be told from every other expression if its two parts can. -/
theorem Expr.decodes_coalesce {left right : Expr} (leftDecodes : left.Decodes names .whole)
    (rightDecodes : right.Decodes names .whole) :
    (Expr.binary .coalesce left right).Decodes names .whole := by
  intro expr' rest rest' tree ends ends' same
  simp only [chars_coalesce, List.append_assoc] at same
  rcases tree.whole_cases with ⟨left', right', leftTree', rightTree', rfl⟩ | alike |
    ⟨op', sign', left', right', leftTree', rightTree', signed', rfl⟩
  · simp only [chars_coalesce, List.append_assoc] at same
    obtain ⟨sameLeft, same⟩ := leftDecodes _ _ _ leftTree' (endsTree_closer (by decide) _)
      (endsTree_closer (by decide) _) (List.append_cancel_left same)
    obtain ⟨sameRight, same⟩ := rightDecodes _ _ _ rightTree' (endsTree_closer (by decide) _)
      (endsTree_closer (by decide) _) (List.append_cancel_left same)
    exact ⟨.binary .coalesce sameLeft sameRight, List.append_cancel_left same⟩
  · rw [alike] at same
    exact absurd same.symm (tree.operand_ne_call _ _)
  · simp only [chars_signed signed', List.append_assoc] at same
    exact absurd same.symm (leftTree'.operand_ne_call _ _)

/-- The parentheses of an operand close behind the whole tree in them. -/
theorem Expr.Decodes.operand {op : BinaryOp} {left right : Expr}
    (tree : (Expr.binary op left right).IsTree names)
    (decodes : (Expr.binary op left right).Decodes names .whole) :
    (Expr.binary op left right).Decodes names .operand := by
  intro expr' rest rest' tree' ends ends' same
  simp only [chars_operand, List.cons_append, List.append_assoc] at same
  cases tree' with
  | column name type has => simp [chars_column, toList_quoteIdentifier] at same
  | binary allowed leftTree rightTree =>
    simp only [chars_operand, List.cons_append, List.append_assoc] at same
    obtain ⟨sameTree, same⟩ := decodes _ _ _ (Expr.BuiltBy.binary allowed leftTree rightTree)
      (endsTree_closer (by decide) _) (endsTree_closer (by decide) _)
      (List.cons.inj same).2
    exact ⟨sameTree, List.append_cancel_left same⟩
  | unary allowed operand => cases allowed
  | conditional allowed test ifTrue ifFalse =>
    simp only [chars_conditional, List.append_assoc] at same
    exact absurd (List.cons.inj same).2 (tree.whole_ne_case _ _)

/-- Every tree can be told from every other at every position. -/
theorem Expr.BuiltBy.decodes (consistent : names.Consistent) {expr : Expr}
    (tree : expr.IsTree names) (position : Position) : expr.Decodes names position := by
  induction tree generalizing position with
  | column name type has =>
    have decodes := Expr.decodes_column consistent has name type
    cases position with
    | whole => exact decodes.whole (.column name type has) rfl
    | operand => exact decodes
  | @binary op left right allowed leftTree rightTree leftDecodes rightDecodes =>
    have decodes : (Expr.binary op left right).Decodes names .whole := by
      rcases BinaryOp.cases_of_isWritten allowed with rfl | ⟨sign, signed⟩
      · exact Expr.decodes_coalesce (leftDecodes .whole) (rightDecodes .whole)
      · exact Expr.decodes_signed signed leftTree (leftDecodes .operand) (rightDecodes .operand)
    cases position with
    | whole => exact decodes
    | operand => exact decodes.operand (.binary allowed leftTree rightTree)
  | unary allowed operand => cases allowed
  | conditional allowed testTree trueTree falseTree testDecodes trueDecodes falseDecodes =>
    have decodes := Expr.decodes_conditional (testDecodes .whole) (trueDecodes .whole)
      (falseDecodes .whole)
    cases position with
    | whole => exact decodes.whole (.conditional allowed testTree trueTree falseTree) rfl
    | operand => exact decodes

end Reading

/-- Trees are spelled alike exactly when they are the same up to the types of their columns. -/
theorem Expr.BuiltBy.spelling_eq_iff {names : TableNames} (consistent : names.Consistent)
    {expr expr' : Expr} (tree : expr.IsTree names) (tree' : expr'.IsTree names) :
    expr.spelling .sqlServer names .whole = expr'.spelling .sqlServer names .whole ↔
      expr.SameTree expr' := by
  constructor
  · intro same
    have chars : expr.chars names .whole ++ [] = expr'.chars names .whole ++ [] := by
      rw [Expr.chars, Expr.chars, same]
    exact (tree.decodes consistent .whole _ _ _ tree' endsTree_nil endsTree_nil chars).1
  · intro same
    exact same.spelling_eq .sqlServer names .whole

/-- What is written for a tree determines it, up to the types of its columns: two trees of columns,
conditionals and operators with a rule, whose tables have their aliases, are both written, and the
texts are the same exactly when the trees are. -/
theorem Expr.written_eq_iff_sameTree {ctx : RenderContext} (dialect : ctx.dialect = .sqlServer)
    {state : Script.State} (reachable : state.Reachable ctx) {expr expr' : Expr}
    (tree : expr.BuiltBy .written state.names.Has) (tree' : expr'.BuiltBy .written state.names.Has)
    (below : Below) :
    ∃ after after', expr.writeTo ctx below state = .ok after ∧
      expr'.writeTo ctx below state = .ok after' ∧
      (after.draft.written = after'.draft.written ↔ expr.SameTree expr') := by
  have known : ∀ id, state.names.Has id → state.Knows ctx id := by
    rintro id ⟨chosen, named⟩
    exact reachable.knows named
  have writes := Expr.writeTo_of_builtBy (fun _ written => written) (tree.mono known) below
  have writes' := Expr.writeTo_of_builtBy (fun _ written => written) (tree'.mono known) below
  refine ⟨_, _, writes, writes', ?_⟩
  rw [Draft.written_append, Draft.written_append, String.append_right_inj, dialect]
  exact tree.spelling_eq_iff reachable.consistent tree'

/-- A sum is told from a column whose name imitates one, and not from a sum of other types. -/
theorem Expr.written_sum_ne_imitation :
    let ctx : RenderContext := ⟨.sqlServer, [(⟨0⟩, "t")]⟩
    let state := (Script.tableName ⟨0⟩ "t").run .sqlServer ⟨.empty, .start 4⟩
    let sum := fun type => Expr.binary .add (.column ⟨0⟩ "A" type) (.column ⟨0⟩ "B" type)
    let imitation := Expr.column ⟨0⟩ "A] + [t].[B" .int32
    ∃ after after' other, (sum .int32).writeTo ctx .none state = .ok after ∧
      (sum .int64).writeTo ctx .none state = .ok after' ∧
      imitation.writeTo ctx .none state = .ok other ∧
      after.draft.written = after'.draft.written ∧ after.draft.written ≠ other.draft.written := by
  intro ctx state sum imitation
  have reachable : state.Reachable ctx := by
    refine ⟨4, Script.tableName ⟨0⟩ "t", ?_, rfl⟩
    intro request member
    obtain rfl := List.mem_singleton.1 member
    rfl
  have has : state.names.Has ⟨0⟩ := ⟨"t", rfl⟩
  have built : ∀ type, (sum type).BuiltBy .written state.names.Has :=
    fun type => .binary rfl (.column "A" type has) (.column "B" type has)
  have single : imitation.BuiltBy .written state.names.Has := .column _ _ has
  obtain ⟨after, after', writes, writes', same⟩ :=
    Expr.written_eq_iff_sameTree rfl reachable (built .int32) (built .int64) .none
  obtain ⟨_, other, again, writesOther, differs⟩ :=
    Expr.written_eq_iff_sameTree rfl reachable (built .int32) single .none
  rw [writes, Except.ok.injEq] at again
  subst again
  refine ⟨after, after', other, writes, writes', writesOther, ?_, ?_⟩
  · exact same.2 (.binary .add (.column ⟨0⟩ "A" .int32 .int64) (.column ⟨0⟩ "B" .int32 .int64))
  · intro imitated
    have sameTree : (sum .int32).SameTree (.column ⟨0⟩ "A] + [t].[B" .int32) := differs.1 imitated
    cases sameTree

end SqlLowering
