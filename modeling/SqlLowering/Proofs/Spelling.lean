import SqlLowering.Proofs.TableNames
import SqlLowering.Script.Expr

/-!
# The text of operator trees

An expression that is built by operators from columns binds nothing and breaks no lines. When its
tables have their aliases already, all that writing it does is to add a text that only depends on
the expression and on those aliases: its spelling. `Expr.writeTo_of_builtBy` says so, and reduces
facts about what is written to facts about spellings.
-/

namespace SqlLowering

/-! ## Writing an expression -/

/-- The text of a draft so far. -/
def Draft.written (draft : Draft) : String :=
  draft.closed ++ draft.segment

/-- The state after an expression has been written. -/
def Expr.writeTo (ctx : RenderContext) (below : Below) (state : Script.State) (expr : Expr) :
    Except LowerError Script.State := do
  return (← expr.render ctx below .whole).run ctx.dialect state

namespace Script

/-- A table that the query declares and that has its alias already. -/
def State.Knows (ctx : RenderContext) (state : State) (id : TableId) : Prop :=
  (∃ preferred, ctx.tables.lookup id = some preferred) ∧
    ∃ chosen, state.names.assigned.lookup id = some chosen

/-- A state that the lowering of a query can come to: some script of mentions of declared tables
leads there from the start. -/
def State.Reachable (ctx : RenderContext) (state : State) : Prop :=
  ∃ (indentWidth : Nat) (script : Script),
    (∀ request ∈ script.requests, ctx.tables.lookup request.1 = some request.2) ∧
      state = script.run ctx.dialect ⟨.empty, .start indentWidth⟩

theorem State.Reachable.consistent {ctx : RenderContext} {state : State}
    (reachable : state.Reachable ctx) : state.names.Consistent := by
  obtain ⟨indentWidth, script, -, rfl⟩ := reachable
  rw [Script.names_run]
  exact TableNames.consistent_empty.after script.requests

/-- A table that has an alias in the course of a lowering is a declared one. -/
theorem State.Reachable.knows {ctx : RenderContext} {state : State}
    (reachable : state.Reachable ctx) {id : TableId} {chosen : String}
    (named : state.names.assigned.lookup id = some chosen) : state.Knows ctx id := by
  refine ⟨?_, chosen, named⟩
  obtain ⟨indentWidth, script, declared, rfl⟩ := reachable
  rw [Script.names_run] at named
  by_contra undeclared
  have silent : ∀ request ∈ script.requests, request.1 ≠ id := by
    rintro request member rfl
    exact undeclared ⟨_, declared request member⟩
  rw [TableNames.lookup_after_of_none rfl silent] at named
  cases named

/-- The script adds a text to every state with the aliases `names`, and nothing else. -/
def Adds (dialect : Dialect) (names : TableNames) (script : Script) (text : String) : Prop :=
  ∀ draft, script.run dialect ⟨names, draft⟩ = ⟨names, draft.append text⟩

theorem adds_text (dialect : Dialect) (names : TableNames) (sql : String) :
    (text sql).Adds dialect names sql :=
  fun _ => rfl

theorem adds_tableName (dialect : Dialect) {names : TableNames} {id : TableId} {chosen : String}
    (named : names.assigned.lookup id = some chosen) (preferred : String) :
    (tableName id preferred).Adds dialect names (dialect.quoteIdentifier chosen) := by
  intro draft
  have found : names.nameFor id preferred = (chosen, names) := by
    rw [TableNames.nameFor, named]
  simp [tableName, run, State.step, found]

theorem Adds.append {dialect : Dialect} {names : TableNames} {first second : Script}
    {text text' : String} (adds : first.Adds dialect names text)
    (adds' : second.Adds dialect names text') :
    Adds dialect names (first ++ second) (text ++ text') := by
  intro draft
  have split : run dialect (first ++ second) ⟨names, draft⟩ =
      second.run dialect (first.run dialect ⟨names, draft⟩) := List.foldl_append
  rw [split, adds, adds', Draft.append, Draft.append, Draft.append, String.append_assoc]

end Script

/-! ## Trees and their spelling -/

/-- Operators by which trees are built. -/
structure OperatorSet where
  binary : BinaryOp → Bool
  unary : UnaryOp → Bool
  conditional : Bool

/-- Whether an operator stands between its operands. -/
def BinaryOp.isInfix (op : BinaryOp) : Bool :=
  op.sign.toOption.isSome

/-- Whether there is a rule by which an operator is written. -/
def BinaryOp.isWritten (op : BinaryOp) : Bool :=
  op = .coalesce || op.isInfix

theorem BinaryOp.exists_sign {op : BinaryOp} (between : op.isInfix = true) :
    ∃ sign, op.sign = .ok sign := by
  rw [isInfix] at between
  cases found : op.sign with
  | ok sign => exact ⟨sign, rfl⟩
  | error _ => simp [found, Except.toOption] at between

theorem BinaryOp.cases_of_isWritten {op : BinaryOp} (written : op.isWritten = true) :
    op = .coalesce ∨ ∃ sign, op.sign = .ok sign := by
  rw [isWritten, Bool.or_eq_true, decide_eq_true_eq] at written
  exact written.imp_right BinaryOp.exists_sign

/-- Expressions that are built by some operators from columns of some tables. -/
inductive Expr.BuiltBy (ops : OperatorSet) (tables : TableId → Prop) : Expr → Prop
  | column {table : TableId} (name : String) (type : DataType) :
    tables table → Expr.BuiltBy ops tables (.column table name type)
  | binary {op : BinaryOp} {left right : Expr} :
    ops.binary op = true → left.BuiltBy ops tables → right.BuiltBy ops tables →
    Expr.BuiltBy ops tables (.binary op left right)
  | unary {op : UnaryOp} {operand : Expr} :
    ops.unary op = true → operand.BuiltBy ops tables →
    Expr.BuiltBy ops tables (.unary op operand)
  | conditional {test ifTrue ifFalse : Expr} :
    ops.conditional = true → test.BuiltBy ops tables → ifTrue.BuiltBy ops tables →
    ifFalse.BuiltBy ops tables → Expr.BuiltBy ops tables (.conditional test ifTrue ifFalse)

/-- The parentheses of a binary expression as an operand. -/
def Position.enclose : Position → String → String
  | .whole, text => text
  | .operand, text => "(" ++ text ++ ")"

/-- The alias of a table that has one. -/
def TableNames.chosen (names : TableNames) (id : TableId) : String :=
  (names.assigned.lookup id).getD ""

/-- The text of an operator tree. -/
def Expr.spelling (dialect : Dialect) (names : TableNames) (position : Position) : Expr → String
  | .column table name _ =>
    dialect.quoteIdentifier (names.chosen table) ++ "." ++ dialect.quoteIdentifier name
  | .binary op left right =>
    position.enclose <|
      if op = .coalesce then
        "COALESCE(" ++ left.spelling dialect names .whole ++ ", " ++
          right.spelling dialect names .whole ++ ")"
      else
        left.spelling dialect names .operand ++ (" " ++ op.sign.toOption.getD "" ++ " ") ++
          right.spelling dialect names .operand
  | .unary .not operand => "0 = " ++ operand.spelling dialect names .operand
  | .unary .negate operand => "-" ++ operand.spelling dialect names .operand
  | .unary (.convert _) operand => operand.spelling dialect names .whole
  | .conditional test ifTrue ifFalse =>
    "(CASE WHEN " ++ test.spelling dialect names .whole ++ " THEN " ++
      ifTrue.spelling dialect names .whole ++ " ELSE " ++
      ifFalse.spelling dialect names .whole ++ " END)"
  | _ => ""

variable {ops : OperatorSet} {tables : TableId → Prop}

theorem Expr.BuiltBy.mono {tables' : TableId → Prop} {expr : Expr}
    (built : expr.BuiltBy ops tables) (kept : ∀ id, tables id → tables' id) :
    expr.BuiltBy ops tables' := by
  induction built with
  | column name type known => exact .column name type (kept _ known)
  | binary allowed _ _ left right => exact .binary allowed left right
  | unary allowed _ operand => exact .unary allowed operand
  | conditional allowed _ _ _ test ifTrue ifFalse => exact .conditional allowed test ifTrue ifFalse

theorem Expr.BuiltBy.readsInput {expr : Expr} (built : expr.BuiltBy ops tables) :
    expr.readsInput = false := by
  induction built with
  | column name type known => rfl
  | binary _ _ _ left right => simp [Expr.readsInput, left, right]
  | unary _ _ operand => simp [Expr.readsInput, operand]
  | conditional _ _ _ _ test ifTrue ifFalse => simp [Expr.readsInput, test, ifTrue, ifFalse]

/-- A tree reads no input, so nothing of it is bound as a parameter. -/
theorem Expr.BuiltBy.isHoisted {expr : Expr} (built : expr.BuiltBy ops tables) :
    expr.isHoisted = false := by
  simp [Expr.isHoisted, Expr.isParameterizable, built.readsInput]

theorem Expr.BuiltBy.takesNot {expr : Expr} (built : expr.BuiltBy ops tables) :
    expr.takesNot = false := by
  cases built <;> rfl

/-- The parentheses of a binary expression as an operand, around its script. -/
def Position.around : Position → Script → Script
  | .whole, body => body
  | .operand, body => Script.text "(" ++ body ++ Script.text ")"

/-- A binary expression with a sign and no records is its operands with the sign between them. -/
theorem Expr.render_of_sign {ctx : RenderContext} {below : Below} {op : BinaryOp}
    {left right : Expr} {sign : String} {first second : Script} (position : Position)
    (signed : op.sign = .ok sign) (sent : (Expr.binary op left right).isHoisted = false)
    (scalar : ∀ fields, left ≠ .record fields)
    (leftRendered : left.render ctx below .operand = .ok first)
    (rightRendered : right.render ctx below .operand = .ok second) :
    (Expr.binary op left right).render ctx below position =
      .ok (position.around (first ++ Script.text (" " ++ sign ++ " ") ++ second)) := by
  have other : op ≠ .coalesce := by
    rintro rfl
    cases signed
  rw [Expr.render, if_neg (by simp [sent]), if_neg other]
  split
  next records => exact absurd rfl (scalar _)
  next =>
    rw [signed, leftRendered, rightRendered]
    cases position <;> rfl

theorem Expr.render_of_coalesce {ctx : RenderContext} {below : Below} {left right : Expr}
    {first second : Script} (position : Position)
    (sent : (Expr.binary .coalesce left right).isHoisted = false)
    (leftRendered : left.render ctx below .whole = .ok first)
    (rightRendered : right.render ctx below .whole = .ok second) :
    (Expr.binary .coalesce left right).render ctx below position =
      .ok (position.around (Script.text "COALESCE(" ++ first ++ Script.text ", " ++ second ++
        Script.text ")")) := by
  rw [Expr.render, if_neg (by simp [sent]), if_pos rfl, leftRendered, rightRendered]
  cases position <;> rfl

theorem Script.Adds.around {dialect : Dialect} {names : TableNames} {body : Script} {text : String}
    (adds : body.Adds dialect names text) (position : Position) :
    Adds dialect names (position.around body) (position.enclose text) := by
  cases position with
  | whole => exact adds
  | operand =>
    exact ((adds_text dialect names "(").append adds).append (adds_text dialect names ")")

/-- A tree over known tables has a script, and the script adds its spelling. -/
theorem Expr.BuiltBy.exists_adds {ctx : RenderContext} {state : Script.State}
    (rendered : ∀ op, ops.binary op = true → op.isWritten = true) {expr : Expr}
    (built : expr.BuiltBy ops (state.Knows ctx)) (below : Below) (position : Position) :
    ∃ script, expr.render ctx below position = .ok script ∧
      script.Adds ctx.dialect state.names (expr.spelling ctx.dialect state.names position) := by
  have sql := Script.adds_text ctx.dialect state.names
  induction built generalizing position with
  | @column table name type known =>
    obtain ⟨⟨preferred, declared⟩, chosen, named⟩ := known
    refine ⟨_, by rw [Expr.render, RenderContext.tableName, declared]; rfl, ?_⟩
    rw [Expr.spelling, TableNames.chosen, named, Option.getD_some]
    exact ((Script.adds_tableName ctx.dialect named preferred).append (sql ".")).append (sql _)
  | @binary op left right allowed leftBuilt rightBuilt leftAdds rightAdds =>
    have sent := (Expr.BuiltBy.binary allowed leftBuilt rightBuilt).isHoisted
    by_cases joined : op = .coalesce
    · subst joined
      obtain ⟨first, leftRendered, addsFirst⟩ := leftAdds .whole
      obtain ⟨second, rightRendered, addsSecond⟩ := rightAdds .whole
      refine ⟨_, Expr.render_of_coalesce position sent leftRendered rightRendered, ?_⟩
      rw [Expr.spelling, if_pos rfl]
      exact (((((sql "COALESCE(").append addsFirst).append (sql ", ")).append addsSecond).append
        (sql ")")).around position
    · obtain ⟨first, leftRendered, addsFirst⟩ := leftAdds .operand
      obtain ⟨second, rightRendered, addsSecond⟩ := rightAdds .operand
      have written := rendered op allowed
      obtain ⟨sign, signed⟩ := (BinaryOp.cases_of_isWritten written).resolve_left joined
      have scalar : ∀ fields, left ≠ .record fields := by
        rintro fields rfl
        cases leftBuilt
      refine ⟨_, Expr.render_of_sign position signed sent scalar leftRendered rightRendered, ?_⟩
      rw [Expr.spelling, if_neg joined, signed]
      exact ((addsFirst.append (sql (" " ++ sign ++ " "))).append addsSecond).around position
  | @unary op operand allowed operandBuilt operandAdds =>
    have sent := (Expr.BuiltBy.unary allowed operandBuilt).isHoisted
    have plain := operandBuilt.takesNot
    cases op with
    | not =>
      obtain ⟨script, operandRendered, adds⟩ := operandAdds .operand
      refine ⟨_, by rw [Expr.render, sent, plain, operandRendered]; rfl, (sql "0 = ").append adds⟩
    | negate =>
      obtain ⟨script, operandRendered, adds⟩ := operandAdds .operand
      exact ⟨_, by rw [Expr.render, sent, operandRendered]; rfl, (sql "-").append adds⟩
    | convert type =>
      obtain ⟨script, operandRendered, adds⟩ := operandAdds .whole
      exact ⟨_, by rw [Expr.render, sent, operandRendered]; rfl, adds⟩
  | @conditional test ifTrue ifFalse allowed testBuilt trueBuilt falseBuilt testAdds trueAdds
      falseAdds =>
    have sent := (Expr.BuiltBy.conditional allowed testBuilt trueBuilt falseBuilt).isHoisted
    obtain ⟨condition, testRendered, addsTest⟩ := testAdds .whole
    obtain ⟨first, trueRendered, addsTrue⟩ := trueAdds .whole
    obtain ⟨second, falseRendered, addsFalse⟩ := falseAdds .whole
    refine ⟨_, by rw [Expr.render, sent, testRendered, trueRendered, falseRendered]; rfl, ?_⟩
    exact ((((((sql "(CASE WHEN ").append addsTest).append (sql " THEN ")).append addsTrue).append
      (sql " ELSE ")).append addsFalse).append (sql " END)")

/-- Writing a tree over known tables adds its spelling to the draft. -/
theorem Expr.writeTo_of_builtBy {ctx : RenderContext} {state : Script.State}
    (rendered : ∀ op, ops.binary op = true → op.isWritten = true) {expr : Expr}
    (built : expr.BuiltBy ops (state.Knows ctx)) (below : Below) :
    expr.writeTo ctx below state =
      .ok ⟨state.names, state.draft.append (expr.spelling ctx.dialect state.names .whole)⟩ := by
  obtain ⟨script, renders, adds⟩ := built.exists_adds rendered below .whole
  rw [Expr.writeTo, renders]
  exact congrArg Except.ok (adds state.draft)

theorem Draft.written_append (draft : Draft) (sql : String) :
    (draft.append sql).written = draft.written ++ sql := by
  rw [written, written, append, String.append_assoc]

end SqlLowering
