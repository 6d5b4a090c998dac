import SqlLowering.Proofs.BoundInputs
import SqlLowering.Proofs.Conversions

/-!
# Operands that depend on inputs only

What depends on inputs only is bound as one parameter, unless it is a binary expression that stands
as an operand: that is taken apart, and what is bound there are pieces of it. The pieces have fewer
nodes, binary ones aside, than the operand (`Renders.plainNodes_le`; the expansion of a record
comparison adds binary nodes, so those do not count). Hence an operand beside a column is bound
itself if and only if it is not binary (`Expr.binds_operand_iff`).
-/

namespace SqlLowering

/-! ## Parameters that a script adds -/

/-- The expression that an edit binds as a parameter. -/
def Draft.Edit.bound? : Draft.Edit → Option Expr
  | .parameter value => some value
  | _ => none

/-- The expression that a piece binds as a parameter. -/
def Piece.bound? : Piece → Option Expr
  | .edit e => e.bound?
  | .tableName _ _ => none

theorem Draft.parameters_flush (draft : Draft) : draft.flush.parameters = draft.parameters := by
  unfold Draft.flush
  split <;> rfl

theorem Draft.exists_added (dialect : Dialect) (draft : Draft) (edit : Edit) :
    ∃ added, (draft.step dialect edit).parameters = draft.parameters ++ added ∧
      added.map (·.value) = edit.bound?.toList := by
  cases edit with
  | append _ | newline | indent | dedent => exact ⟨[], (List.append_nil _).symm, rfl⟩
  | parameter value =>
    refine ⟨[⟨draft.nextName, dialect.placeholder draft.nextName, value⟩], ?_, rfl⟩
    rw [Draft.step, Draft.parameter, Draft.parameters_flush]
    rfl
  | list source =>
    refine ⟨[], ?_, rfl⟩
    rw [Draft.step, Draft.list, Draft.parameters_flush, List.append_nil]

/-- A script adds a binding for each expression that it binds as a parameter. -/
theorem Script.exists_added (dialect : Dialect) (script : Script) (state : Script.State) :
    ∃ added, (script.run dialect state).draft.parameters = state.draft.parameters ++ added ∧
      added.map (·.value) = script.filterMap Piece.bound? := by
  induction script generalizing state with
  | nil => exact ⟨[], (List.append_nil _).symm, rfl⟩
  | cons piece rest ih =>
    obtain ⟨later, parameters, values⟩ := ih (state.step dialect piece)
    cases piece with
    | edit e =>
      obtain ⟨added, extended, value⟩ := Draft.exists_added dialect state.draft e
      refine ⟨added ++ later, ?_, ?_⟩
      · rw [← List.append_assoc, ← extended]
        exact parameters
      · rw [List.map_append, value, values, List.filterMap_cons, Piece.bound?]
        cases e.bound? <;> rfl
    | tableName id preferred => exact ⟨later, parameters, values⟩

theorem Draft.nextParameter_step (dialect : Dialect) (draft : Draft) (edit : Edit) :
    (draft.step dialect edit).nextParameter =
      draft.nextParameter + edit.source?.toList.length := by
  cases edit <;> rfl

/-- The numbers go on by one for each parameter and each list. -/
theorem Script.nextParameter_run (dialect : Dialect) (script : Script) (state : Script.State) :
    (script.run dialect state).draft.nextParameter =
      state.draft.nextParameter + (script.filterMap Piece.source?).length := by
  induction script generalizing state with
  | nil => rfl
  | cons piece rest ih =>
    rw [Script.run, List.foldl_cons]
    refine (ih _).trans ?_
    cases piece with
    | edit e =>
      rw [Script.State.step, Draft.nextParameter_step, List.filterMap_cons, Piece.source?]
      cases e.source? with
      | none => rfl
      | some source =>
        rw [List.length_cons, Option.toList_some, List.length_singleton]
        omega
    | tableName id preferred => rfl

/-! ## Nodes of the host -/

mutual

/-- The number of nodes that rendering can come to on the host, without the binary ones. -/
def Expr.plainNodes : Expr → Nat
  | .binary _ left right => left.plainNodes + right.plainNodes
  | .unary _ operand => operand.plainNodes + 1
  | .conditional test ifTrue ifFalse =>
    test.plainNodes + ifTrue.plainNodes + ifFalse.plainNodes + 1
  | .record fields => Expr.fieldsPlainNodes fields + 1
  | _ => 1

/-- The number of such nodes in the fields of a record. -/
def Expr.fieldsPlainNodes : List (String × Expr) → Nat
  | [] => 0
  | (_, expr) :: rest => expr.plainNodes + Expr.fieldsPlainNodes rest

end

theorem Expr.plainNodes_pos : ∀ expr : Expr, 0 < expr.plainNodes
  | .binary _ left right => by
    have first := left.plainNodes_pos
    rw [Expr.plainNodes]
    omega
  | .unary .. | .conditional .. | .record _ | .column .. | .aliased .. | .constant .. | .input ..
  | .function .. | .fragment .. | .cast .. | .exists _ | .isIn .. | .aggregate .. | .subquery ..
  | .array .. | .member .. | .parameter .. | .defaultIfEmpty .. => by
    rw [Expr.plainNodes] <;> first | omega | simp

/-- Either operand has fewer nodes than both together. -/
theorem Expr.plainNodes_operands {op : BinaryOp} {left right : Expr} {bound : Nat}
    (few : (Expr.binary op left right).plainNodes ≤ bound + 1) :
    left.plainNodes ≤ bound ∧ right.plainNodes ≤ bound := by
  have leftPos := left.plainNodes_pos
  have rightPos := right.plainNodes_pos
  rw [Expr.plainNodes] at few
  omega

/-- The comparisons of fields, joined behind a first expression, have the nodes of that expression
and of the fields. -/
theorem Expr.plainNodes_foldl_zipWith (joiner op : BinaryOp) {left right : List (String × Expr)}
    (lengths : left.length = right.length) (first : Expr) :
    ((List.zipWith (fun l r => Expr.binary op l.2 r.2) left right).foldl (.binary joiner)
      first).plainNodes =
      first.plainNodes + Expr.fieldsPlainNodes left + Expr.fieldsPlainNodes right := by
  induction left generalizing right first with
  | nil => cases right with
    | nil => rfl
    | cons _ _ => cases lengths
  | cons l ls ih => cases right with
    | nil => cases lengths
    | cons r rs =>
      rw [List.zipWith_cons_cons, List.foldl_cons, ih (Nat.succ.inj lengths), Expr.plainNodes,
        Expr.plainNodes, Expr.fieldsPlainNodes, Expr.fieldsPlainNodes]
      omega

/-- A comparison of records, written out field by field, has the nodes of the fields. -/
theorem plainNodes_recordComparison {op : BinaryOp} {left right : List (String × Expr)}
    {comparison : Expr} (compared : recordComparison op left right = .ok comparison) :
    comparison.plainNodes = Expr.fieldsPlainNodes left + Expr.fieldsPlainNodes right := by
  obtain ⟨lengths, first, rest, terms, rfl⟩ := recordComparison_eq_ok compared
  cases left with
  | nil => cases terms
  | cons l ls => cases right with
    | nil => cases lengths
    | cons r rs =>
      cases terms
      rw [Expr.plainNodes_foldl_zipWith _ op (Nat.succ.inj lengths), Expr.plainNodes,
        Expr.fieldsPlainNodes, Expr.fieldsPlainNodes]
      omega

theorem Expr.isOnHost_foldl_binary (op : BinaryOp) {terms : List Expr} {first : Expr}
    (firstOnHost : first.isOnHost = true) (onHost : ∀ term ∈ terms, term.isOnHost = true) :
    (terms.foldl (.binary op) first).isOnHost = true := by
  induction terms generalizing first with
  | nil => exact firstOnHost
  | cons term rest ih =>
    rw [List.forall_mem_cons] at onHost
    refine ih ?_ onHost.2
    rw [Expr.isOnHost, firstOnHost, onHost.1, Bool.and_self]

/-- A comparison of records of the host stays on the host. -/
theorem isOnHost_recordComparison {op : BinaryOp} {left right : List (String × Expr)}
    {comparison : Expr} (compared : recordComparison op left right = .ok comparison)
    (leftOnHost : Expr.areFieldsOnHost left = true)
    (rightOnHost : Expr.areFieldsOnHost right = true) : comparison.isOnHost = true := by
  obtain ⟨-, first, rest, terms, rfl⟩ := recordComparison_eq_ok compared
  have onHost : ∀ term ∈ first :: rest, term.isOnHost = true := by
    rw [← terms]
    intro term member
    obtain ⟨l, leftMember, r, rightMember, rfl⟩ := exists_fields_of_mem_zipWith member
    rw [Expr.isOnHost, Expr.isOnHost_of_mem_fields leftOnHost leftMember,
      Expr.isOnHost_of_mem_fields rightOnHost rightMember, Bool.and_self]
  rw [List.forall_mem_cons] at onHost
  exact Expr.isOnHost_foldl_binary _ onHost.1 onHost.2

/-! ## What is bound below a node -/

/-- A symbol below which only expressions with few nodes are bound: a column, or an expression of
the host that has few nodes or is taken apart where it stands. -/
inductive Symbol.Within (bound : Nat) : Symbol → Prop
  | piece {piece : Piece} :
    (∀ value, piece.bound? = some value → value.plainNodes ≤ bound) →
    Symbol.Within bound (.piece piece)
  | column {position : Position} (table : TableId) (name : String) (type : DataType) :
    Symbol.Within bound (.node (.expr position (.column table name type)))
  | host {position : Position} {expr : Expr} :
    expr.isOnHost = true → expr.plainNodes ≤ bound + 1 →
    (expr.isBoundAt position = true → expr.plainNodes ≤ bound) →
    Symbol.Within bound (.node (.expr position expr))

theorem Symbol.Within.silent {bound : Nat} {piece : Piece} (silent : piece.bound? = none) :
    Symbol.Within bound (.piece piece) := by
  refine .piece fun value binds => ?_
  rw [silent] at binds
  cases binds

/-- Below every symbol of a form only expressions with few nodes are bound. -/
def Form.Within (bound : Nat) (form : Form) : Prop :=
  ∀ symbol ∈ form, symbol.Within bound

namespace Form

variable {bound : Nat}

theorem Within.append {first second : Form} (within : first.Within bound)
    (within' : second.Within bound) : Within bound (first ++ second) := by
  intro symbol member
  rcases List.mem_append.1 member with inFirst | inSecond
  · exact within symbol inFirst
  · exact within' symbol inSecond

theorem within_text (sql : String) : (text sql).Within bound := by
  intro symbol member
  obtain rfl := List.mem_singleton.1 member
  exact .silent rfl

theorem Within.around {body : Form} (within : body.Within bound) (position : Position) :
    (Form.around position body).Within bound := by
  cases position with
  | whole => exact within
  | operand => exact ((within_text "(").append within).append (within_text ")")

/-- An expression of the host with few nodes. -/
theorem within_expr {expr : Expr} (onHost : expr.isOnHost = true)
    (few : expr.plainNodes ≤ bound) (position : Position) :
    (node (.expr position expr)).Within bound := by
  intro symbol member
  obtain rfl := List.mem_singleton.1 member
  exact .host onHost (Nat.le_succ_of_le few) (fun _ => few)

end Form

/-- Below such a symbol, all symbols are such. -/
theorem Node.Produces.within {ctx : RenderContext} {node : Node} {produced : Form} {bound : Nat}
    (produces : node.Produces ctx produced) (within : Symbol.Within bound (.node node)) :
    produced.Within bound := by
  cases within with
  | column table name type =>
    cases produces with
    | column declared =>
      intro symbol member
      obtain ⟨piece, listed, rfl⟩ := List.mem_map.1 member
      simp only [Script.tableName, Script.text, RenderContext.identifier, List.mem_append,
        List.mem_singleton] at listed
      rcases listed with (rfl | rfl) | rfl <;> exact .silent rfl
    | hoisted hoisted => cases hoisted
  | host onHost few fits =>
    cases produces with
    | constant literal => exact Form.within_text _
    | hoisted hoisted =>
      intro symbol member
      obtain rfl := List.mem_singleton.1 member
      refine .piece ?_
      rintro _ ⟨⟩
      exact fits hoisted
    | coalesce _ =>
      rw [Expr.isOnHost, Bool.and_eq_true] at onHost
      obtain ⟨leftFew, rightFew⟩ := Expr.plainNodes_operands few
      have first := (Form.within_text "COALESCE(").append (Form.within_expr onHost.1 leftFew .whole)
      have second := (Form.within_text ", ").append (Form.within_expr onHost.2 rightFew .whole)
      have body := (first.append second).append (Form.within_text ")")
      rw [← List.append_assoc] at body
      exact body.around _
    | @records _ op left right comparison _ compared _ =>
      rw [Expr.isOnHost, Bool.and_eq_true] at onHost
      have stays := isOnHost_recordComparison compared onHost.1 onHost.2
      have counted := plainNodes_recordComparison compared
      rw [Expr.plainNodes, Expr.plainNodes, Expr.plainNodes] at few
      have whole : (Form.whole comparison).Within bound :=
        Form.within_expr stays (by omega) .whole
      exact whole.around _
    | sign _ _ _ =>
      rw [Expr.isOnHost, Bool.and_eq_true] at onHost
      obtain ⟨leftFew, rightFew⟩ := Expr.plainNodes_operands few
      have first := Form.within_expr onHost.1 leftFew .operand
      have second := Form.within_expr onHost.2 rightFew .operand
      exact ((first.append (Form.within_text _)).append second).around _
    | notTest _ _ | notValue _ _ | negate _ =>
      rw [Expr.isOnHost] at onHost
      rw [Expr.plainNodes] at few
      exact (Form.within_text _).append (Form.within_expr onHost (Nat.le_of_succ_le_succ few) _)
    | convert _ =>
      rw [Expr.isOnHost] at onHost
      rw [Expr.plainNodes] at few
      exact Form.within_expr onHost (Nat.le_of_succ_le_succ few) .whole
    | @conditional _ test ifTrue ifFalse _ =>
      rw [Expr.isOnHost, Bool.and_eq_true, Bool.and_eq_true] at onHost
      rw [Expr.plainNodes] at few
      have condition : (Form.whole test).Within bound :=
        Form.within_expr onHost.1.1 (by omega) .whole
      have first : (Form.whole ifTrue).Within bound :=
        Form.within_expr onHost.1.2 (by omega) .whole
      have second : (Form.whole ifFalse).Within bound :=
        Form.within_expr onHost.2 (by omega) .whole
      have text (sql : String) : (Form.text sql).Within bound := Form.within_text sql
      exact ((((((text _).append condition).append (text _)).append first).append (text _)).append
        second).append (text _)
    | _ => cases onHost

/-- A script binds only expressions with few nodes if its form says so. -/
theorem Renders.plainNodes_le {ctx : RenderContext} {form : Form} {script : Script} {bound : Nat}
    (renders : Renders ctx form script) (within : form.Within bound) :
    ∀ value ∈ script.filterMap Piece.bound?, value.plainNodes ≤ bound := by
  induction renders with
  | nil => nofun
  | piece piece _ ih =>
    obtain ⟨here, later⟩ := List.forall_mem_cons.1 within
    intro value member
    obtain ⟨other, listed, binds⟩ := List.mem_filterMap.1 member
    rcases List.mem_cons.1 listed with rfl | inRest
    · cases here with
      | piece few => exact few value binds
    · exact ih later value (List.mem_filterMap.2 ⟨other, inRest, binds⟩)
  | node produces _ _ producedIh ih =>
    obtain ⟨here, later⟩ := List.forall_mem_cons.1 within
    rw [List.filterMap_append, List.forall_mem_append]
    exact ⟨producedIh (produces.within here), ih later⟩

/-! ## Operands beside a column -/

/-- A column beside an operand of the host is sent to the database. -/
theorem Expr.isHoisted_binary_column (op : BinaryOp) (table : TableId) (name : String)
    (type : DataType) (operand : Expr) :
    (Expr.binary op (.column table name type) operand).isHoisted = false := by
  rw [Expr.isHoisted, Expr.isParameterizable, Expr.isOnHost]
  simp [Expr.isOnHost]

/-- Beside a column, a binary operand is not bound itself. -/
theorem Renders.ne_of_isBinary {ctx : RenderContext} {op : BinaryOp} {table : TableId}
    {name : String} {type : DataType} {operand : Expr} {script : Script}
    (renders : Renders ctx (.whole (.binary op (.column table name type) operand)) script)
    (between : op.isInfix = true) (onHost : operand.isOnHost = true)
    (binary : operand.isBinary = true) :
    ∀ value ∈ script.filterMap Piece.bound?, value ≠ operand := by
  have positive := operand.plainNodes_pos
  have apart : operand.isBoundAt .operand = false := by
    cases operand with
    | binary _ _ _ => rfl
    | _ => cases binary
  -- The operand is taken apart where it stands, so it may have one node more than what is bound.
  have within : Form.Within (operand.plainNodes - 1) (.operand operand) := by
    intro symbol member
    obtain rfl := List.mem_singleton.1 member
    exact .host onHost (by omega) (by simp [apart])
  have column : Form.Within (operand.plainNodes - 1) (.operand (.column table name type)) := by
    intro symbol member
    obtain rfl := List.mem_singleton.1 member
    exact .column table name type
  rintro _ member rfl
  cases renders with
  | node produces produced rest =>
    cases rest
    rw [List.append_nil] at member
    cases produces with
    | hoisted hoisted =>
      rw [Expr.isBoundAt, Expr.isHoisted_binary_column] at hoisted
      cases hoisted
    | coalesce _ => cases between
    | sign _ _ _ =>
      have few := produced.plainNodes_le ((column.append (Form.within_text _)).append within) _
        member
      omega

/-- Anything but a binary expression is bound itself, wherever it stands. -/
theorem Expr.render_of_isHoisted {expr : Expr} (hoisted : expr.isHoisted = true)
    (plain : expr.isBinary = false) (ctx : RenderContext) (below : Below) (position : Position) :
    expr.render ctx below position = .ok (.parameter expr) := by
  cases expr with
  | binary _ _ _ => cases plain
  | unary op operand => cases op <;> exact if_pos hoisted
  | conditional _ _ _ | input _ _ | record _ | array _ _ | member _ _ _ => exact if_pos hoisted
  | _ => cases hoisted

/-- Beside a column, an operand that is not binary is all that is bound. -/
theorem Expr.render_beside_column {ctx : RenderContext} {table : TableId} {preferred : String}
    (declared : ctx.tables.lookup table = some preferred) {op : BinaryOp}
    (between : op.isInfix = true) {operand : Expr} (hoisted : operand.isHoisted = true)
    (plain : operand.isBinary = false) (name : String) (type : DataType) (below : Below) :
    ∃ script,
      (Expr.binary op (.column table name type) operand).render ctx below .whole = .ok script ∧
        script.filterMap Piece.bound? = [operand] ∧ script.filterMap Piece.source? = [operand] := by
  obtain ⟨sign, signed⟩ := BinaryOp.exists_sign between
  have column : (Expr.column table name type).render ctx below .operand =
      .ok (.tableName table preferred ++ .text "." ++ ctx.identifier name) := by
    rw [Expr.render, RenderContext.tableName, declared]
    rfl
  have sent := Expr.isHoisted_binary_column op table name type operand
  have scalar : ∀ fields, Expr.column table name type ≠ .record fields := by
    intro fields same
    cases same
  have bound := Expr.render_of_isHoisted hoisted plain ctx below .operand
  exact ⟨_, Expr.render_of_sign .whole signed sent scalar column bound, rfl, rfl⟩

/-- What depends on inputs only and stands beside a column is bound as one parameter, which is all
that is bound, if and only if it is not binary. A binary one is not bound at all: its operands
are. -/
theorem Expr.binds_operand_iff {ctx : RenderContext} {table : TableId} {preferred : String}
    (declared : ctx.tables.lookup table = some preferred) {op : BinaryOp}
    (between : op.isInfix = true) {operand : Expr} (hoisted : operand.isHoisted = true)
    (name : String) (type : DataType) (levels : Nat) (state : Script.State) :
    let expr := Expr.binary op (.column table name type) operand
    ((∃ after binding, expr.writeTo ctx (.level ctx levels) state = .ok after ∧
        binding.value = operand ∧ after.draft.parameters = state.draft.parameters ++ [binding] ∧
        after.draft.nextParameter = state.draft.nextParameter + 1) ↔ operand.isBinary = false) ∧
      (operand.isBinary = true → ∀ after, expr.writeTo ctx (.level ctx levels) state = .ok after →
        ∃ added, after.draft.parameters = state.draft.parameters ++ added ∧
          ∀ binding ∈ added, binding.value ≠ operand) := by
  intro expr
  have onHost : operand.isOnHost = true := by
    simp only [Expr.isHoisted, Expr.isParameterizable, Bool.and_eq_true] at hoisted
    exact hoisted.1.2
  have apart : operand.isBinary = true → ∀ after,
      expr.writeTo ctx (.level ctx levels) state = .ok after →
      ∃ added, after.draft.parameters = state.draft.parameters ++ added ∧
        ∀ binding ∈ added, binding.value ≠ operand := by
    intro binary after writes
    simp only [Expr.writeTo, Except.bind_eq_ok, Except.pure_eq_ok] at writes
    obtain ⟨script, rendered, rfl⟩ := writes
    obtain ⟨added, parameters, values⟩ := script.exists_added ctx.dialect state
    refine ⟨added, parameters, ?_⟩
    intro binding member
    have renders := (Below.sound_level ctx levels).renders expr rendered
    apply renders.ne_of_isBinary between onHost binary
    rw [← values]
    exact List.mem_map_of_mem member
  refine ⟨⟨?_, ?_⟩, apart⟩
  · rintro ⟨after, binding, writes, bound, parameters, -⟩
    by_contra binary
    obtain ⟨added, others, differ⟩ := apart (Bool.not_eq_false _ ▸ binary) after writes
    rw [parameters, List.append_cancel_left_eq] at others
    exact differ binding (others ▸ List.mem_singleton_self binding) bound
  · intro plain
    obtain ⟨script, rendered, bound, sources⟩ :=
      Expr.render_beside_column declared between hoisted plain name type (.level ctx levels)
    obtain ⟨added, parameters, values⟩ := script.exists_added ctx.dialect state
    rw [bound, List.map_eq_singleton_iff] at values
    obtain ⟨binding, rfl, value⟩ := values
    have next := script.nextParameter_run ctx.dialect state
    rw [sources] at next
    refine ⟨_, binding, ?_, value, parameters, next⟩
    rw [Expr.writeTo, rendered]
    rfl

/-- A choice between inputs is bound as one parameter. -/
theorem Expr.binds_choice :
    let choice :=
      Expr.conditional (.input "rush" .bool) (.input "near" .int32) (.constant (.int 7) .int32)
    let expr := Expr.binary .lessThan (.column ⟨0⟩ "A" .int32) choice
    choice.isHoisted = true ∧
      ∃ after binding, expr.writeTo .single (.level .single 2) .single = .ok after ∧
        binding.value = choice ∧
        after.draft.parameters = Script.State.single.draft.parameters ++ [binding] ∧
        after.draft.nextParameter = Script.State.single.draft.nextParameter + 1 := by
  intro choice expr
  have declared : RenderContext.single.tables.lookup ⟨0⟩ = some "t" := rfl
  have hoisted : choice.isHoisted = true := rfl
  exact ⟨hoisted, (Expr.binds_operand_iff declared rfl hoisted "A" .int32 2 .single).1.2 rfl⟩

/-- Of a sum only the input is bound, and a remainder cannot be written at all, though the host
could compute both. -/
theorem Expr.takes_apart_sum_and_remainder :
    let input := Expr.input "x" .int32
    let sum := Expr.binary .add input (.constant (.int 1) .int32)
    let remainder := Expr.binary .modulo input (.constant (.int 2) .int32)
    let column := Expr.column ⟨0⟩ "A" .int32
    (sum.isHoisted = true ∧ remainder.isHoisted = true) ∧
      (∃ after, (Expr.binary .equal column sum).writeTo .single (.level .single 2) .single =
          .ok after ∧
        after.draft.written = "[t].[A] = (@p0 + 1)" ∧
        after.draft.parameters.map (·.value) = [input]) ∧
      (Expr.binary .equal column remainder).writeTo .single (.level .single 2) .single =
        .error (.operatorInSql .modulo) := by
  exact ⟨⟨rfl, rfl⟩, ⟨_, rfl, by decide, rfl⟩, rfl⟩

end SqlLowering
