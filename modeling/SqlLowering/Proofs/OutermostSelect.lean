import SqlLowering.Proofs.Visits

/-!
# Truth values are stored by the outermost select

The columns of the outermost select are converted to the type that a dialect stores truth values in,
and nothing else is. So a query can be written for another storage type by writing those columns
again: what stands before, between and behind them is the same for all storage types
(`Select.exists_listed`). Together with the frame of a visit this says where the count of selects is
zero and what depends on it (`Node.visited_framed`).
-/

namespace SqlLowering

/-- The dialect with another type to store truth values in. -/
def Dialect.storing (dialect : Dialect) (storage : String) : Dialect :=
  { dialect with booleanStorageType := storage }

/-- The context with another type to store truth values in. -/
def RenderContext.storing (ctx : RenderContext) (storage : String) : RenderContext :=
  { ctx with dialect := ctx.dialect.storing storage }

/-! ## Columns of the outermost select -/

/-- The value of a column of the outermost select, written as an item: a truth value is converted,
unless it is stored already. -/
def Column.stored (ctx : RenderContext) (column : Column) (item : Script) : Script :=
  if column.expr.type.isBoolean && !column.expr.isStored then
    Script.text "CAST(" ++ item ++ Script.text (" AS " ++ ctx.dialect.booleanStorageType ++ ")")
  else item

/-- A column of the outermost select. -/
def Column.listed (ctx : RenderContext) (column : Column) (item : Script) : Script :=
  if column.name.isEmpty then column.stored ctx item
  else column.stored ctx item ++ Script.text " AS " ++ ctx.identifier column.name

/-- The columns of the outermost select. -/
def listedColumns (ctx : RenderContext) (columns : List Column) (items : List Script) : Script :=
  if columns.isEmpty then Script.text "1"
  else Script.separated ", " (List.zipWith (Column.listed ctx) columns items)

section Storing

variable {ctx : RenderContext}

namespace Renders

/-- A form with pieces behind it. -/
theorem followed_iff {form : Form} {pieces script : Script} :
    Renders ctx (form ++ .script pieces) script ↔
      ∃ inner, Renders ctx form inner ∧ inner ++ pieces = script := by
  constructor
  · intro renders
    obtain ⟨inner, last, rfl, inside, behind⟩ := renders.exists_of_append
    exact ⟨inner, inside, by rw [behind.eq_of_script]⟩
  · rintro ⟨inner, inside, rfl⟩
    exact inside.append (.script pieces)

/-- A form with text on both sides. -/
theorem between_iff {form : Form} {before after : String} {script : Script} :
    Renders ctx (.text before ++ form ++ .text after) script ↔
      ∃ inner, Renders ctx form inner ∧
        Script.text before ++ inner ++ Script.text after = script := by
  constructor
  · intro renders
    obtain ⟨start, starts, rfl⟩ := followed_iff.1 renders
    obtain ⟨first, inner, rfl, front, inside⟩ := starts.exists_of_append
    exact ⟨inner, inside, by rw [eq_of_script front]⟩
  · rintro ⟨inner, inside, rfl⟩
    exact ((Renders.text before).append inside).append (.text after)

/-- What is derived for the value of a column is its item, converted where the column asks for it.
-/
theorem stored_iff {column : Column} {script : Script} :
    Renders ctx
      (if true && column.expr.type.isBoolean && !column.expr.isStored then
        .text "CAST(" ++ .item column.expr ++
          .text (" AS " ++ ctx.dialect.booleanStorageType ++ ")")
      else .item column.expr) script ↔
      ∃ item, Renders ctx (.item column.expr) item ∧ column.stored ctx item = script := by
  unfold Column.stored
  rw [Bool.true_and]
  split
  · exact between_iff
  · constructor
    · intro renders
      exact ⟨script, renders, rfl⟩
    · rintro ⟨item, renders, rfl⟩
      exact renders

/-- What is derived for a column is its item, as a column lists it. -/
theorem column_iff {column : Column} {script : Script} :
    Renders ctx (.column ctx true column) script ↔
      ∃ item, Renders ctx (.item column.expr) item ∧ column.listed ctx item = script := by
  unfold Form.column Column.listed
  dsimp only
  split
  · exact stored_iff
  · constructor
    · intro renders
      obtain ⟨_, start, rfl⟩ := followed_iff.1 renders
      obtain ⟨value, unnamed, rfl⟩ := followed_iff.1 start
      obtain ⟨item, inside, rfl⟩ := stored_iff.1 unnamed
      exact ⟨item, inside, rfl⟩
    · rintro ⟨item, renders, rfl⟩
      exact ((stored_iff.2 ⟨item, renders, rfl⟩).append (.text " AS ")).append (.script _)

theorem forall₂_column_iff {columns : List Column} {scripts : List Script} :
    List.Forall₂ (Renders ctx) (columns.map (.column ctx true)) scripts ↔
      ∃ items, List.Forall₂ (fun column item => Renders ctx (.item column.expr) item) columns
          items ∧ List.zipWith (Column.listed ctx) columns items = scripts := by
  induction columns generalizing scripts with
  | nil => simp
  | cons column rest ih =>
    simp only [List.map_cons, List.forall₂_cons_left_iff, column_iff, ih]
    constructor
    · rintro ⟨_, _, ⟨item, inside, rfl⟩, ⟨items, each, rfl⟩, rfl⟩
      exact ⟨item :: items, ⟨item, items, inside, each, rfl⟩, rfl⟩
    · rintro ⟨_, ⟨item, items, inside, each, rfl⟩, rfl⟩
      exact ⟨_, _, ⟨item, inside, rfl⟩, ⟨items, each, rfl⟩, rfl⟩

/-- What is derived for columns is one item for each, as the outermost select lists them. -/
theorem columns_iff {columns : List Column} {script : Script} :
    Renders ctx (.columns ctx true columns) script ↔
      ∃ items, List.Forall₂ (fun column item => Renders ctx (.item column.expr) item) columns
          items ∧ listedColumns ctx columns items = script := by
  unfold Form.columns listedColumns
  split
  next none =>
    obtain rfl := List.isEmpty_iff.1 none
    constructor
    · intro renders
      exact ⟨[], .nil, (eq_of_script renders).symm⟩
    · rintro ⟨_, _, rfl⟩
      exact .text "1"
  next =>
    constructor
    · intro renders
      obtain ⟨scripts, rfl, each⟩ := renders.exists_of_separated
      obtain ⟨items, inside, rfl⟩ := forall₂_column_iff.1 each
      exact ⟨items, inside, rfl⟩
    · rintro ⟨items, inside, rfl⟩
      exact .separated ", " (forall₂_column_iff.2 ⟨items, inside, rfl⟩)

end Renders

/-! ## Other storage types -/

/-- The storage type does not matter to a node that is not the outermost select. -/
theorem Node.Produces.storing {node : Node} {produced : Form}
    (produces : node.Produces ctx produced) (nested : node.isOutermost = false)
    (storage : String) : node.Produces (ctx.storing storage) produced := by
  cases produces with
  | select flattened found =>
    cases nested
    exact .select flattened found
  | column declared => exact .column declared
  | aliased => exact .aliased
  | constant literal => exact .constant literal
  | hoisted bound => exact .hoisted bound
  | coalesce apart => exact .coalesce apart
  | records compares compared apart => exact .records compares compared apart
  | sign signed others apart => exact .sign signed others apart
  | notTest taken apart => exact .notTest taken apart
  | notValue refused apart => exact .notValue refused apart
  | negate apart => exact .negate apart
  | convert apart => exact .convert apart
  | conditional apart => exact .conditional apart
  | function => exact .function
  | fragment => exact .fragment
  | cast => exact .cast
  | «exists» => exact .exists
  | isIn => exact .isIn
  | aggregate => exact .aggregate
  | subquery => exact .subquery
  | valuesSubquery => exact .valuesSubquery
  | noValues => exact .noValues
  | valuesList nonempty => exact .valuesList nonempty
  | valuesConstants written => exact .valuesConstants written
  | valuesDynamic parameterizable => exact .valuesDynamic parameterizable
  | base declared => exact .base declared
  | derived declared => exact .derived declared
  | setOperation declared => exact .setOperation declared
  | join => exact .join
  | cross => exact .cross
  | term => exact .term
  | andThen => exact .andThen

/-- Nor does it matter to a form without the outermost select. -/
theorem Renders.storing {form : Form} {script : Script} (renders : Renders ctx form script)
    (nested : ∀ node, .node node ∈ form → node.isOutermost = false) (storage : String) :
    Renders (ctx.storing storage) form script := by
  induction renders with
  | nil => exact .nil
  | piece piece _ ih =>
    exact .piece piece (ih fun node member => nested node (List.mem_cons_of_mem _ member))
  | node produces _ _ ihProduced ihRest =>
    exact .node (produces.storing (nested _ List.mem_cons_self) storage)
      (ihProduced produces.closed.nested)
      (ihRest fun node member => nested node (List.mem_cons_of_mem _ member))

/-- The items of a select are rendered with the levels of the select. -/
theorem Select.forall₂_renderItem {select : Select} {columns : List Column} {plan : Plan}
    (flattened : select.projection.flatten = .ok (columns, plan)) {items : List Script}
    (each : List.Forall₂ (fun column item => Renders ctx (.item column.expr) item) columns items) :
    List.Forall₂ (fun column item =>
      column.expr.renderItem ctx (.level ctx select.depth) = .ok item) columns items := by
  have enough : ∀ column ∈ columns, (Part.expr column.expr).levels ≤ select.depth := by
    intro column listed
    have own := @Part.levels_le_of_mem (.select select) _ List.mem_cons_self
    exact Nat.le_trans (Projection.contains_of_flatten flattened listed).levels_le own
  refine ((List.forall₂_and_left columns items).2 ⟨enough, each⟩).imp ?_
  rintro column item ⟨levels, renders⟩
  rw [← Form.render_item]
  refine renders.render_eq_ok ?_
  rw [Form.parts_item]
  exact List.forall_mem_singleton.2 levels

/-- What the outermost select writes depends on the storage type in its columns only, and there it
is the type that truth values are converted to. -/
theorem Select.exists_listed {dialect : Dialect} {select : Select} {script : Script}
    (rendered : select.script dialect = .ok script) :
    let ctx : RenderContext := ⟨dialect, select.declarations⟩
    ∃ columns plan items front rest, select.projection.flatten = .ok (columns, plan) ∧
      List.Forall₂ (fun column item =>
        column.expr.renderItem ctx (.level ctx select.depth) = .ok item) columns items ∧
      ∀ storage, select.script (dialect.storing storage) =
        .ok (front ++ listedColumns (ctx.storing storage) columns items ++ rest) := by
  intro ctx
  cases Select.script_eq_ok_iff.1 rendered with
  | node produces produced last =>
    cases last
    cases produces with
    | @select _ _ columns plan keys flattened found =>
      rw [Form.select_eq] at produced
      obtain ⟨start, rest, rfl, opening, clauses⟩ := Renders.exists_of_append produced
      obtain ⟨front, list, rfl, before, listed⟩ := opening.exists_of_append
      obtain ⟨items, each, rfl⟩ := Renders.columns_iff.1 listed
      refine ⟨columns, plan, items, front, rest, flattened,
        Select.forall₂_renderItem flattened each, ?_⟩
      intro storage
      -- All but the columns is written as before, and so are their items.
      have before' := before.storing ((Form.isKept_closed ctx).front select).nested storage
      have clauses' := clauses.storing ((Form.isKept_closed ctx).clauses select keys).nested storage
      have each' := each.imp fun column _ inside =>
        inside.storing ((Form.isKept_closed ctx).item column.expr).nested storage
      have listed' := Renders.columns_iff.2 ⟨items, each', rfl⟩
      refine Select.script_eq_ok_iff.2 (.of_produces (.select flattened found) ?_)
      rw [Form.select_eq]
      exact (before'.append listed').append clauses'

end Storing

/-! ## The outermost select is visited at depth zero -/

/-- Whatever a select writes is written inside of it. -/
theorem Node.Visited.one_le_nesting {ctx : RenderContext} {outermost : Bool} {select : Select}
    {before after : Translator} {history : List Moment}
    (visited : Node.Visited ctx (.select outermost select) before history after) :
    ∀ moment ∈ history, 1 ≤ moment.nesting := by
  cases visited with
  | node other _ _ _ => cases other
  | select _ _ _ rest =>
    cases rest
    rw [List.append_nil]
    exact List.forall_mem_map.2 fun moment _ => Nat.le_add_left 1 moment.nesting

/-- A query is visited as it is rendered, and the count of selects is zero when the outermost select
writes something of its own. -/
theorem Select.visited_of_script {dialect : Dialect} {select : Select} {script : Script}
    (rendered : select.script dialect = .ok script) (state : Script.State) :
    let ctx : RenderContext := ⟨dialect, select.declarations⟩
    let before : Translator := ⟨state, -1⟩
    (∃ history, Node.Visited ctx (.select true select) before history
      (before.run dialect script)) ∧
    ∀ history after, Node.Visited ctx (.select true select) before history after →
      written history = script ∧ ∀ moment ∈ history,
        1 ≤ moment.nesting ∧ (moment.translator.depth = 0 ↔ moment.nesting = 1) := by
  intro ctx before
  have same := fun after script => @Node.exists_visited_iff ctx before after (.select true select)
    select.depth (Nat.le_refl _) ⟨Int.le_refl _, rfl⟩ script
  constructor
  · obtain ⟨history, -, visited⟩ := (same _ script).2 ⟨rendered, rfl⟩
    exact ⟨history, visited⟩
  · intro history after visited
    have yields := ((same after _).1 ⟨history, rfl, visited⟩).1
    refine ⟨Except.ok.inj (yields.symm.trans rendered), fun moment member => ?_⟩
    have inside := visited.one_le_nesting moment member
    have counted : moment.translator.depth = -1 + moment.nesting :=
      Visits.depth_of_mem visited moment member
    omega

/-- Every visit is framed, and so the count of selects says which select is the outermost one.

From any translator, a visit of a node that succeeds restores the count and the level, adds to what
has been written without changing it, takes back no parameter and no alias, and never leaves a block
that it has not entered. At every moment the count is the one at the beginning and the selects that
have been entered since. Visits are what rendering does: where a node stands in its place, visiting
it writes what rendering it yields, and succeeds whenever that does.

A query is visited from a count of -1, and the count is zero exactly when one select is open, the
outermost one. Of all that is written for the query, only the list of that select depends on the
type that truth values are stored in. There every item that is a truth value and not stored already
is converted to it, whatever selects the items in front of it have. -/
theorem Node.visited_framed :
    (∀ (ctx : RenderContext) (node : Node) (before after : Translator) (history : List Moment),
      node.Visited ctx before history after →
      before.Frames after ∧ ∀ moment ∈ history,
        moment.translator.depth = before.depth + moment.nesting ∧
        (moment.piece = .edit .dedent → 0 < moment.translator.draft.indent)) ∧
    (∀ (ctx : RenderContext) (node : Node) (levels : Nat) (before after : Translator)
        (script : Script), node.part.depth ≤ levels → node.StandsAt before.depth →
      ((∃ history, written history = script ∧ node.Visited ctx before history after) ↔
        node.render ctx (.level ctx levels) = .ok script ∧
          after = before.run ctx.dialect script)) ∧
    ∀ (dialect : Dialect) (select : Select) (script : Script), select.script dialect = .ok script →
      let ctx : RenderContext := ⟨dialect, select.declarations⟩
      (∀ state, let before : Translator := ⟨state, -1⟩
        (∃ history, Node.Visited ctx (.select true select) before history
          (before.run dialect script)) ∧
        ∀ history after, Node.Visited ctx (.select true select) before history after →
          written history = script ∧ ∀ moment ∈ history,
            1 ≤ moment.nesting ∧ (moment.translator.depth = 0 ↔ moment.nesting = 1)) ∧
      ∃ columns plan items front rest, select.projection.flatten = .ok (columns, plan) ∧
        List.Forall₂ (fun column item =>
          column.expr.renderItem ctx (.level ctx select.depth) = .ok item) columns items ∧
        ∀ storage, select.script (dialect.storing storage) =
          .ok (front ++ listedColumns (ctx.storing storage) columns items ++ rest) := by
  refine ⟨?_, ?_, ?_⟩
  · intro ctx node before after history visited
    obtain ⟨frames, inside⟩ := visited.frames
    refine ⟨frames, fun moment member => ⟨?_, inside moment member⟩⟩
    exact Visits.depth_of_mem visited moment member
  · intro ctx node levels before after script enough stands
    exact Node.exists_visited_iff enough stands
  · intro dialect select script rendered
    exact ⟨Select.visited_of_script rendered, Select.exists_listed rendered⟩

/-- A truth value of each row of a table. -/
def Select.flagged : Select where
  projection := .server (.binary .equal (.column ⟨1⟩ "B" .int32) (.constant (.int 1) .int32))
  table := some (.base ⟨1⟩ "dbo" "U" "u")
  predicate := none
  grouping := none
  ordering := none
  offset := none
  limit := none
  distinct := false

/-- Two truth values of each row, the first of them from a select of its own. -/
def Select.flags : Select where
  projection := .server (.record
    [("Any", .exists .flagged),
      ("Same", .binary .equal (.column ⟨0⟩ "A" .int32) (.constant (.int 1) .int32))])
  table := some (.base ⟨0⟩ "dbo" "T" "t")
  predicate := none
  grouping := none
  ordering := none
  offset := none
  limit := none
  distinct := false

/-- The inner select writes its truth value as it is. Both items of the outermost one are converted,
the second one behind the inner select. -/
theorem Node.visited_framed_flags :
    let ctx : RenderContext := ⟨.sqlServer, Select.flags.declarations⟩
    ∃ script, Select.flags.script .sqlServer = .ok script ∧
      (script.recipe .sqlServer 4).written = "SELECT CAST((CASE WHEN EXISTS (\n" ++
        "    SELECT (CASE WHEN [u].[B] = 1 THEN 1 ELSE 0 END)\n" ++
        "    FROM [dbo].[U] AS [u]\n" ++
        ") THEN 1 ELSE 0 END) AS BIT) AS [Any], " ++
        "CAST((CASE WHEN [t].[A] = 1 THEN 1 ELSE 0 END) AS BIT) AS [Same]\n" ++
        "FROM [dbo].[T] AS [t]" ∧
      (∀ state, ∃ history after,
        Node.Visited ctx (.select true .flags) ⟨state, -1⟩ history after ∧
        written history = script ∧ Translator.Frames ⟨state, -1⟩ after ∧
        ∀ moment ∈ history, moment.translator.depth = 0 ↔ moment.nesting = 1) ∧
      ∀ state, ∃ history after,
        Node.Visited ctx (.expr .whole (.exists .flagged)) ⟨state, 0⟩ history after ∧
        after.depth = 0 := by
  intro ctx
  obtain ⟨frames, rendered, query⟩ := Node.visited_framed
  refine ⟨_, rfl, by decide +kernel, fun state => ?_, fun state => ?_⟩
  · obtain ⟨⟨history, visited⟩, all⟩ := (query .sqlServer .flags _ rfl).1 state
    obtain ⟨same, counts⟩ := all history _ visited
    exact ⟨history, _, visited, same, (frames _ _ _ _ _ visited).1,
      fun moment member => (counts moment member).2⟩
  · have stands : Node.StandsAt 0 (.expr .whole (.exists .flagged)) := Int.le_refl 0
    obtain ⟨history, -, visited⟩ :=
      (rendered ctx (.expr .whole (.exists .flagged)) 1 ⟨state, 0⟩ _ _ (by decide) stands).2
        ⟨rfl, rfl⟩
    exact ⟨history, _, visited, (frames _ _ _ _ _ visited).1.depth⟩

end SqlLowering
