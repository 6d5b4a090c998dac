import SqlLowering.Proofs.Following
import SqlLowering.Proofs.Placeholders

/-!
# Where the inputs of nested selects go

An input is bound as part of a parameter or a list, unless it is in a part of a shape that
flattening leaves to the host. The plan of the outermost select evaluates those parts. Nested
selects have no plan that anyone runs, so there they are lost.
-/

namespace SqlLowering

/-! ## What a recipe binds -/

/-- The expression that a step binds. -/
def Step.source? : Step → Option Expr
  | .text _ => none
  | .parameter binding => some binding.value
  | .list binding => some binding.source

/-- The expressions that a recipe binds, as parameters or as lists. -/
def Recipe.sources : Recipe → List Expr
  | .fixed _ parameters => parameters.map (·.value)
  | .stepwise steps => steps.filterMap Step.source?

namespace Draft

theorem Booked.sources_finish {draft : Draft} (booked : draft.Booked) :
    draft.finish.sources = draft.steps.filterMap Step.source? := by
  have flushed := booked.flush
  rw [← filterMap_flush Step.source? (fun _ => rfl) draft]
  cases listed : draft.flush.hasList with
  | true =>
    rw [finish_of_hasList listed]
    rfl
  | false =>
    rw [finish_of_no_list listed]
    rw [flushed.hasList] at listed
    rw [Recipe.sources, flushed.parameters]
    exact Step.map_of_no_list Step.source? (·.value) (fun _ => rfl) (fun _ => rfl) listed

theorem sources_step (dialect : Dialect) (draft : Draft) (edit : Edit) :
    (draft.step dialect edit).steps.filterMap Step.source? =
      draft.steps.filterMap Step.source? ++ edit.source?.toList := by
  cases edit with
  | append _ | newline | indent | dedent => exact (List.append_nil _).symm
  | parameter value =>
    have flushed := filterMap_flush Step.source? (fun _ => rfl)
      (draft.append (dialect.placeholder draft.nextName))
    simp only [Draft.step, Draft.parameter, List.filterMap_append, flushed]
    rfl
  | list source =>
    have flushed := filterMap_flush Step.source? (fun _ => rfl) draft
    simp only [Draft.step, Draft.list, List.filterMap_append, flushed]
    rfl

end Draft

theorem Script.sources_run (dialect : Dialect) (script : Script) (state : Script.State) :
    (script.run dialect state).draft.steps.filterMap Step.source? =
      state.draft.steps.filterMap Step.source? ++ script.filterMap Piece.source? := by
  induction script generalizing state with
  | nil => exact (List.append_nil _).symm
  | cons piece rest ih =>
    rw [Script.run, List.foldl_cons]
    refine (ih _).trans ?_
    cases piece with
    | edit e =>
      rw [Script.State.step, Draft.sources_step, List.append_assoc, List.filterMap_cons,
        Piece.source?]
      cases e.source? <;> rfl
    | tableName id preferred => rfl

/-- A recipe binds what its script binds, in the same order. -/
theorem Script.sources_recipe (dialect : Dialect) (indentWidth : Nat) (script : Script) :
    (script.recipe dialect indentWidth).sources = script.filterMap Piece.source? := by
  have booked := script.booked_run dialect indentWidth
  rw [Script.recipe, booked.sources_finish, Script.sources_run]
  rfl

/-! ## Nested selects -/

/-- A select stands in another one where a value or a table is expected: it is the select of a
scalar subquery, of a list of values or of a table, at any depth. -/
def Select.NestsValue (select inner : Select) : Prop :=
  (∃ type, (Part.select select).Contains (.expr (.subquery .scalar inner type))) ∨
    (Part.select select).Contains (.values (.subquery inner)) ∨
    ∃ id preferred, (Part.select select).Contains (.table (.subquery id preferred inner))

theorem Select.NestsValue.contains {select inner : Select} (nested : select.NestsValue inner) :
    (Part.select select).Contains (.select inner) := by
  rcases nested with ⟨type, contains⟩ | contains | ⟨id, preferred, contains⟩
  all_goals exact contains.trans (.of_child (.refl _) List.mem_cons_self)

/-- The bodies of a projection that are shapes over the columns. -/
def Projection.serverBodies : Projection → List Expr
  | .server body | .client body _ => [body]
  | .composite outer inner _ => outer.serverBodies ++ inner.serverBodies

theorem Projection.contains_of_mem_serverBodies :
    ∀ {projection : Projection} {body : Expr}, body ∈ projection.serverBodies →
      (Part.projection projection).Contains (.expr body)
  | .server _, _, member | .client _ _, _, member => by
    obtain rfl := List.mem_singleton.1 member
    exact .of_child (.refl _) List.mem_cons_self
  | .composite outer inner _, body, member => by
    rcases List.mem_append.1 member with first | second
    · exact (Projection.contains_of_mem_serverBodies first).of_child List.mem_cons_self
    · exact (Projection.contains_of_mem_serverBodies second).of_child
        (List.mem_cons_of_mem _ List.mem_cons_self)

/-- A select that is written binds the inputs of its projection, unless the projection leaves them
to the host or a select in the projection does. -/
theorem Renders.projection_bound_or_left {ctx : RenderContext} (places : ctx.dialect.PlacesPaging)
    {outermost : Bool} {select : Select} {script : Script}
    (renders : Renders ctx (.node (.select outermost select)) script) {name : String}
    (mentioned : (Part.projection select.projection).Mentions name) :
    (∃ source ∈ script.filterMap Piece.source?, (Part.expr source).Mentions name) ∨
      ∃ left, (select.projection.Leaves left ∨
        ∃ within, (Part.projection select.projection).Contains (.select within) ∧
          within.Leaves left) ∧ (Part.expr left).Mentions name := by
  obtain ⟨type, reads⟩ := mentioned
  cases renders with
  | @node _ produced _ own rest produces renders nothing =>
    cases nothing
    rw [List.append_nil]
    cases produces with
    | @select _ _ columns _ keys flattened found =>
      rcases (Projection.accounts_of_flatten rfl flattened).accounted reads with
        ⟨column, listed, inside⟩ | ⟨left, leaves, inside⟩
      · have member : Part.expr column.expr ∈
            (Form.select ctx outermost select columns keys).parts :=
          (Form.mem_parts_select places).2 (.inl ⟨column, listed, rfl⟩)
        refine (renders.follows places rfl _ member inside).bound_or_left.imp id ?_
        rintro ⟨within, left, contains, leaves, mentions⟩
        refine ⟨left, .inr ⟨within, ?_, leaves⟩, mentions⟩
        rcases (Projection.accounts_of_flatten rfl flattened).within ⟨column, listed, contains⟩ with
          ⟨_, none, _⟩ | contained
        · cases none
        · exact contained
      · exact .inr ⟨left, .inl leaves, type, inside⟩

/-- An input that a shape of a nested select reads is read by something that the command binds,
unless the projection of that select, or a select in it, leaves it to the host. -/
theorem Select.nested_input_bound_or_left {dialect : Dialect} (places : dialect.PlacesPaging)
    {indentWidth : Nat} {select : Select} {lowered : Lowered}
    (lowers : select.lower dialect indentWidth = .ok lowered) {inner : Select}
    (nested : select.NestsValue inner) {body : Expr} (server : body ∈ inner.projection.serverBodies)
    {name : String} (mentioned : (Part.expr body).Mentions name) :
    (∃ source ∈ lowered.recipe.sources, (Part.expr source).Mentions name) ∨
      ∃ left, (inner.projection.Leaves left ∨
        ∃ within, (Part.projection inner.projection).Contains (.select within) ∧
          within.Leaves left) ∧ (Part.expr left).Mentions name := by
  obtain ⟨script, scripted, recipe⟩ := Select.recipe_of_lower lowers
  have renders := Select.renders_of_script scripted
  obtain ⟨outermost, own, written, inside⟩ :=
    (renders.follows places rfl _ List.mem_cons_self nested.contains).exists_renders
  obtain ⟨type, reads⟩ := mentioned
  have read : (Part.projection inner.projection).Mentions name :=
    ⟨type, (Projection.contains_of_mem_serverBodies server).trans reads⟩
  rw [recipe, Script.sources_recipe]
  refine (written.projection_bound_or_left places read).imp ?_ id
  rintro ⟨source, member, mentions⟩
  obtain ⟨piece, listed, sourced⟩ := List.mem_filterMap.1 member
  exact ⟨source, List.mem_filterMap.2 ⟨piece, inside listed, sourced⟩, mentions⟩

/-- The rows whose number is among what a select yields. -/
def Select.numbersAmong (inner : Select) : Select where
  projection := .server (.column ⟨0⟩ "A" .int32)
  table := some (.base ⟨0⟩ "dbo" "T" "t")
  predicate := some (.isIn (.column ⟨0⟩ "A" .int32) (.subquery inner))
  grouping := none
  ordering := none
  offset := none
  limit := none
  distinct := false

/-- The select of one shape, from a table or from none. -/
def Select.yielding (body : Expr) (table : Option Table) : Select :=
  ⟨.server body, table, none, none, none, none, none, false⟩

theorem Select.numbersAmong_nestsValue (inner : Select) :
    (Select.numbersAmong inner).NestsValue inner := by
  refine .inr (.inl ?_)
  have values : (Part.expr (.isIn (.column ⟨0⟩ "A" .int32) (.subquery inner))).Contains
      (.values (.subquery inner)) :=
    .of_child (.refl _) (List.mem_cons_of_mem _ List.mem_cons_self)
  exact values.of_child (by simp [Part.children, Select.children, Select.clauses, numbersAmong])

/-- The sum of a column and an input is written where it stands, so the input is bound. -/
theorem Select.nested_sum_bound :
    let body := Expr.binary .add (.column ⟨1⟩ "B" .int32) (.input "x" .int32)
    let inner := Select.yielding body (some (.base ⟨1⟩ "dbo" "U" "u"))
    ∃ lowered, (Select.numbersAmong inner).lower .sqlServer 4 = .ok lowered ∧
      ∃ source ∈ lowered.recipe.sources, (Part.expr source).Mentions "x" := by
  intro body inner
  have mentioned : (Part.expr body).Mentions "x" :=
    ⟨.int32, .of_child (.refl _) (List.mem_cons_of_mem _ List.mem_cons_self)⟩
  have places : Dialect.sqlServer.PlacesPaging := ⟨by decide, by decide⟩
  refine ⟨_, rfl, ?_⟩
  refine (Select.nested_input_bound_or_left places rfl (Select.numbersAmong_nestsValue inner)
    List.mem_cons_self mentioned).resolve_right ?_
  rintro ⟨left, leaves | ⟨within, contains, -⟩, -⟩
  · cases (show body.Leaves left from leaves) with
    | itself _ parameterizable => cases parameterizable
    | part apart _ _ => rcases apart with shape | parts <;> contradiction
  · obtain ⟨child, member, contains⟩ := (Part.contains_iff_child rfl rfl).1 contains
    obtain rfl := List.mem_singleton.1 member
    rcases (Part.contains_binary rfl _ _ _).1 contains with contains | contains
    all_goals
      rcases Relation.ReflTransGen.cases_head contains with impossible | ⟨child, member, -⟩
      · cases impossible
      · cases member

/-- A nested select that yields an input alone loses it: the command has no parameter, and the plan
reads a column. -/
theorem Select.nested_input_unbound :
    let inner := Select.yielding (.input "x" .int32) none
    ∃ lowered, (Select.numbersAmong inner).lower .sqlServer 4 = .ok lowered ∧
      (Select.numbersAmong inner).NestsValue inner ∧
      inner.projection = .server (.input "x" .int32) ∧
      lowered.recipe.text? =
        some "SELECT [t].[A]\nFROM [dbo].[T] AS [t]\nWHERE [t].[A] IN (\n    SELECT 1\n)" ∧
      lowered.recipe.sources = [] ∧ lowered.plan = .readColumn 0 .int32 := by
  intro inner
  exact ⟨_, rfl, Select.numbersAmong_nestsValue inner, rfl, by decide +kernel, by decide +kernel,
    rfl⟩

end SqlLowering
