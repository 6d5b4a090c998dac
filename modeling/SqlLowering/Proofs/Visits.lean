import SqlLowering.Proofs.Blocks
import SqlLowering.Proofs.Dashes
import SqlLowering.Proofs.Derivations
import SqlLowering.Proofs.GroupingKeys

/-!
# What a visit leaves as it was

A translator goes through a query from left to right. It counts the selects that it is inside of,
and what it writes for a column depends on the count at that moment. `Visits` is such a walk, with
its history: the pieces in the order in which they are written, each with the translator at that
moment and the number of selects that have been entered and not left.

* `Node.Visited.frames`: a visit restores the count and the level, and all else is only added to.
* `Visits.depth_of_mem`: at every moment the count is the number of selects that are open.
* `Node.exists_visited_iff`: a visit writes what rendering yields. Rendering has no count but says
  in advance which select is the outermost one; both come to the same because counts are restored.
-/

namespace SqlLowering

/-! ## Translators -/

theorem Script.run_append (dialect : Dialect) (first second : Script) (state : Script.State) :
    Script.run dialect (first ++ second) state = second.run dialect (first.run dialect state) :=
  List.foldl_append

/-- The state in which a query is visited: aliases, what has been written, and the number of selects
that are open inside of the outermost one, which is negative until that is open too. -/
structure Translator extends Script.State where
  depth : Int

namespace Translator

/-- The translator after a piece. -/
def write (dialect : Dialect) (translator : Translator) (piece : Piece) : Translator :=
  { translator with toState := translator.toState.step dialect piece }

/-- The translator after a script. -/
def run (dialect : Dialect) (translator : Translator) (script : Script) : Translator :=
  { translator with toState := script.run dialect translator.toState }

theorem run_append (dialect : Dialect) (translator : Translator) (first second : Script) :
    translator.run dialect (first ++ second) =
      (translator.run dialect first).run dialect second := by
  rw [run, run, run, Script.run_append]

/-- The translator at the beginning of a select. -/
def enter (translator : Translator) : Translator :=
  { translator with depth := translator.depth + 1 }

/-- The translator at the end of a select. -/
def leave (translator : Translator) : Translator :=
  { translator with depth := translator.depth - 1 }

theorem leave_run_enter (dialect : Dialect) (translator : Translator) (script : Script) :
    (translator.enter.run dialect script).leave = translator.run dialect script := by
  simp only [leave, run, enter, Int.add_sub_cancel]

end Translator

/-- A piece as it is written. -/
structure Moment where
  /-- The number of selects that have been entered and not left since the visit began. -/
  nesting : Nat
  translator : Translator
  piece : Piece

/-- A moment of a select, as a moment of what the select stands in. -/
def Moment.inward (moment : Moment) : Moment :=
  { moment with nesting := moment.nesting + 1 }

/-- The script of what has been written. -/
def written (history : List Moment) : Script :=
  history.map Moment.piece

theorem written_append (first second : List Moment) :
    written (first ++ second) = written first ++ written second :=
  List.map_append

theorem written_inward (history : List Moment) :
    written (history.map Moment.inward) = written history :=
  List.map_map

/-! ## Visits -/

/-- What is left to be visited. The form of a column is settled when it is reached. -/
inductive Task where
  | symbol (symbol : Symbol)
  | column (column : Column)

/-- The symbols of a form, to be visited in order. -/
def Form.tasks (form : Form) : List Task :=
  form.map .symbol

namespace Task

/-- Columns with commas between them. -/
def separated : List Column → List Task
  | [] => []
  | [c] => [.column c]
  | c :: rest => .column c :: (Form.text ", ").tasks ++ separated rest

/-- The columns of a select, or the constant one if there are none. -/
def columns (items : List Column) : List Task :=
  if items.isEmpty then (Form.text "1").tasks else separated items

/-- A select with its columns and the keys of its grouping. -/
def select (ctx : RenderContext) (query : Select) (items : List Column) (keys : List Expr) :
    List Task :=
  (Form.front ctx query).tasks ++ columns items ++ (Form.clauses ctx query keys).tasks

/-- What holds of closed forms and of columns, and is kept when tasks are put behind each other,
holds of a whole select. -/
theorem select_of_kept {Q : List Task → Prop}
    (append : ∀ {first second : List Task}, Q first → Q second → Q (first ++ second))
    (closed : ∀ {form : Form}, form.Closed → Q form.tasks) (column : ∀ c, Q [.column c])
    (ctx : RenderContext) (query : Select) (items : List Column) (keys : List Expr) :
    Q (select ctx query items keys) := by
  have listed : Q (separated items) := by
    induction items with
    | nil => exact closed .nil
    | cons c rest ih =>
      cases rest with
      | nil => exact column c
      | cons _ _ => exact append (append (column c) (closed (Form.closed_text ", "))) ih
  have columns : Q (columns items) := by
    unfold Task.columns
    split
    · exact closed (Form.closed_text "1")
    · exact listed
  have kept := Form.isKept_closed ctx
  exact append (append (closed (kept.front query)) columns) (closed (kept.clauses query keys))

end Task

/-- Whether a node is a select. -/
def Node.isSelect : Node → Bool
  | .select _ _ => true
  | _ => false

/-- Visits of tasks from one translator to another. A column is one of the outermost select if the
translator says so when it gets there, whatever the node of the select says. -/
inductive Visits (ctx : RenderContext) : List Task → Translator → List Moment → Translator → Prop
  | nil {translator : Translator} : Visits ctx [] translator [] translator
  | piece {rest : List Task} {before after : Translator} {history : List Moment} (piece : Piece) :
    Visits ctx rest (before.write ctx.dialect piece) history after →
    Visits ctx (.symbol (.piece piece) :: rest) before (⟨0, before, piece⟩ :: history) after
  | node {node : Node} {produced : Form} {rest : List Task} {before middle after : Translator}
      {inner history : List Moment} :
    node.isSelect = false → node.Produces ctx produced →
    Visits ctx produced.tasks before inner middle → Visits ctx rest middle history after →
    Visits ctx (.symbol (.node node) :: rest) before (inner ++ history) after
  | column {column : Column} {rest : List Task} {before middle after : Translator}
      {inner history : List Moment} :
    Visits ctx (Form.column ctx (before.depth = 0) column).tasks before inner middle →
    Visits ctx rest middle history after →
    Visits ctx (.column column :: rest) before (inner ++ history) after
  | select {outermost : Bool} {select : Select} {columns : List Column} {plan : Plan}
      {keys : List Expr} {rest : List Task} {before middle after : Translator}
      {inner history : List Moment} :
    select.projection.flatten = .ok (columns, plan) →
    (∀ key, select.grouping = some key → key.groupingKeys = .ok keys) →
    Visits ctx (Task.select ctx select columns keys) before.enter inner middle →
    Visits ctx rest middle.leave history after →
    Visits ctx (.symbol (.node (.select outermost select)) :: rest) before
      (inner.map Moment.inward ++ history) after

/-- A visit of a single node. -/
def Node.Visited (ctx : RenderContext) (node : Node) (before : Translator)
    (history : List Moment) (after : Translator) : Prop :=
  Visits ctx (Form.node node).tasks before history after

/-! ## The count of selects -/

section Counts

variable {ctx : RenderContext} {tasks : List Task} {before middle after : Translator}
  {history : List Moment}

theorem Visits.depth_eq (visits : Visits ctx tasks before history after) :
    after.depth = before.depth := by
  induction visits with
  | nil => rfl
  | piece _ _ ih => exact ih
  | node _ _ _ _ ihInner ihRest | column _ _ ihInner ihRest => exact ihRest.trans ihInner
  | select _ _ _ _ ihInner ihRest =>
    rw [ihRest, Translator.leave, ihInner]
    exact Int.add_sub_cancel _ _

theorem Visits.depth_leave (visits : Visits ctx tasks before.enter history middle) :
    middle.leave.depth = before.depth := by
  rw [Translator.leave, visits.depth_eq]
  exact Int.add_sub_cancel _ _

/-- The count is as high as the selects that are open at a moment make it. -/
theorem Visits.depth_of_mem (visits : Visits ctx tasks before history after) :
    ∀ moment ∈ history, moment.translator.depth = before.depth + moment.nesting := by
  induction visits with
  | nil => exact List.forall_mem_nil _
  | piece _ _ ih => exact List.forall_mem_cons.2 ⟨(Int.add_zero _).symm, ih⟩
  | node _ _ inside _ ihInner ihRest | column inside _ ihInner ihRest =>
    rw [inside.depth_eq] at ihRest
    exact List.forall_mem_append.2 ⟨ihInner, ihRest⟩
  | select _ _ inside _ ihInner ihRest =>
    rw [inside.depth_leave] at ihRest
    refine List.forall_mem_append.2 ⟨List.forall_mem_map.2 fun moment member => ?_, ihRest⟩
    -- The select counts itself once, in the translator and in the history.
    rw [Moment.inward, ihInner moment member, Translator.enter]
    push_cast
    omega

/-- A visit does to aliases and text what the script of its pieces does. -/
theorem Visits.state_eq (visits : Visits ctx tasks before history after) :
    after.toState = (written history).run ctx.dialect before.toState := by
  induction visits with
  | nil => rfl
  | piece _ _ ih => exact ih
  | node _ _ _ _ ihInner ihRest | column _ _ ihInner ihRest =>
    rw [ihRest, ihInner, written_append, Script.run_append]
  | select _ _ _ _ ihInner ihRest =>
    rw [ihRest, Translator.leave, ihInner, written_append, written_inward, Script.run_append]
    rfl

theorem Visits.eq_run (visits : Visits ctx tasks before history after) :
    after = before.run ctx.dialect (written history) := by
  have state := visits.state_eq
  have depth := visits.depth_eq
  cases after
  cases state
  cases depth
  rfl

end Counts

/-! ## Aliases and text -/

namespace Draft

theorem prefix_flush (draft : Draft) :
    draft.closed.toList <+: draft.flush.closed.toList ∧ draft.steps <+: draft.flush.steps := by
  unfold Draft.flush
  split
  · exact ⟨List.prefix_rfl, List.prefix_rfl⟩
  · simp

/-- An edit closes segments and adds steps, and takes none back. -/
theorem prefix_step (dialect : Dialect) (draft : Draft) (edit : Edit) :
    draft.closed.toList <+: (draft.step dialect edit).closed.toList ∧
      draft.steps <+: (draft.step dialect edit).steps := by
  cases edit with
  | append _ | newline | indent | dedent => exact ⟨List.prefix_rfl, List.prefix_rfl⟩
  | parameter value =>
    obtain ⟨closed, steps⟩ :=
      prefix_flush (draft.append (dialect.placeholder draft.nextName))
    exact ⟨closed, steps.trans (List.prefix_append _ _)⟩
  | list source =>
    obtain ⟨closed, steps⟩ := prefix_flush draft
    exact ⟨closed, steps.trans (List.prefix_append _ _)⟩

end Draft

/-- Aliases and text that have been added to: all that was there is still there, unchanged. -/
structure Script.State.Extends (before after : Script.State) : Prop where
  written : before.draft.written.toList <+: after.draft.written.toList
  closed : before.draft.closed.toList <+: after.draft.closed.toList
  steps : before.draft.steps <+: after.draft.steps
  parameters : before.draft.parameters <+: after.draft.parameters
  nextParameter : before.draft.nextParameter ≤ after.draft.nextParameter
  names : ∀ {id chosen}, before.names.assigned.lookup id = some chosen →
    after.names.assigned.lookup id = some chosen

namespace Script

theorem State.Extends.refl (state : State) : state.Extends state :=
  ⟨List.prefix_rfl, List.prefix_rfl, List.prefix_rfl, List.prefix_rfl, Nat.le_refl _, id⟩

theorem State.Extends.trans {before middle after : State} (first : before.Extends middle)
    (second : middle.Extends after) : before.Extends after where
  written := first.written.trans second.written
  closed := first.closed.trans second.closed
  steps := first.steps.trans second.steps
  parameters := first.parameters.trans second.parameters
  nextParameter := Nat.le_trans first.nextParameter second.nextParameter
  names found := second.names (first.names found)

/-- A piece takes nothing back. -/
theorem State.extends_step (dialect : Dialect) (state : State) (piece : Piece) :
    state.Extends (state.step dialect piece) := by
  have written : state.draft.written.toList <+:
      (state.step dialect piece).draft.written.toList := by
    rw [State.written_step, String.toList_append]
    exact List.prefix_append _ _
  cases piece with
  | edit e =>
    obtain ⟨closed, steps⟩ := state.draft.prefix_step dialect e
    obtain ⟨added, parameters, -⟩ := state.draft.exists_added dialect e
    have next := state.draft.nextParameter_step dialect e
    exact {
      written, closed, steps
      parameters := ⟨added, parameters.symm⟩
      nextParameter := by rw [State.step, next]; exact Nat.le_add_right _ _
      names := id }
  | tableName id preferred =>
    exact { State.Extends.refl state with
      written
      names := fun found => TableNames.lookup_nameFor_of_some found id preferred }

theorem extends_run (dialect : Dialect) (script : Script) (state : State) :
    state.Extends (script.run dialect state) := by
  induction script generalizing state with
  | nil => exact .refl state
  | cons piece rest ih => exact (State.extends_step dialect state piece).trans (ih _)

end Script

/-! ## Levels of the text -/

/-- The level behind a task, if it does not lead out of a block that was not entered. -/
def Task.levelAfter : Nat → Task → Option Nat
  | level, .symbol (.piece (.edit .indent)) => some (level + 1)
  | 0, .symbol (.piece (.edit .dedent)) => none
  | level + 1, .symbol (.piece (.edit .dedent)) => some level
  | level, _ => some level

/-- The level behind some tasks. -/
def levelBehind (tasks : List Task) (level : Nat) : Option Nat :=
  tasks.foldlM Task.levelAfter level

theorem levelBehind_cons (task : Task) (rest : List Task) (level : Nat) :
    levelBehind (task :: rest) level = (task.levelAfter level).bind (levelBehind rest) :=
  rfl

theorem levelBehind_append (first second : List Task) (level : Nat) :
    levelBehind (first ++ second) level = (levelBehind first level).bind (levelBehind second) :=
  List.foldlM_append

theorem Form.tasks_append (first second : Form) :
    Form.tasks (first ++ second) = first.tasks ++ second.tasks :=
  List.map_append

theorem Task.levelAfter_of_isFlat {piece : Piece} (flat : piece.isFlat = true) (level : Nat) :
    (Task.symbol (.piece piece)).levelAfter level = some level := by
  cases piece with
  | tableName id preferred => rfl
  | edit e =>
    cases e with
    | indent | dedent => cases flat
    | _ => rfl

/-- A closed form ends on the level on which it starts. -/
theorem Form.Closed.levelBehind_tasks {form : Form} (closed : form.Closed) (level : Nat) :
    levelBehind form.tasks level = some level := by
  induction closed generalizing level with
  | nil | node _ => rfl
  | piece flat =>
    rw [Form.tasks, List.map_singleton, levelBehind_cons, Task.levelAfter_of_isFlat flat]
    rfl
  | append _ _ ihFirst ihSecond =>
    rw [Form.tasks_append, levelBehind_append, ihFirst, Option.bind_some, ihSecond]
  | block _ ih =>
    have opened : levelBehind (script [.edit .indent, .edit .newline]).tasks level =
      some (level + 1) := rfl
    rw [Form.block, Form.tasks_append, Form.tasks_append, levelBehind_append, levelBehind_append,
      opened, Option.bind_some, ih]
    rfl

theorem Task.levelBehind_select (ctx : RenderContext) (query : Select) (items : List Column)
    (keys : List Expr) (level : Nat) :
    levelBehind (select ctx query items keys) level = some level := by
  refine @select_of_kept (fun tasks => ∀ level, levelBehind tasks level = some level) ?_ ?_ ?_
    ctx query items keys level
  · intro first second start rest level
    rw [levelBehind_append, start, Option.bind_some, rest]
  · exact fun closed => closed.levelBehind_tasks
  · exact fun _ _ => rfl

/-- A piece changes the level as it should, above a base that it does not reach. -/
theorem Script.State.indent_step (dialect : Dialect) {state : Script.State} {piece : Piece}
    {base level next : Nat} (levels : (Task.symbol (.piece piece)).levelAfter level = some next)
    (starts : state.draft.indent = base + level) :
    (state.step dialect piece).draft.indent = base + next ∧
      (piece = .edit .dedent → 0 < state.draft.indent) := by
  cases piece with
  | tableName id preferred =>
    cases levels
    exact ⟨starts, fun dedents => by cases dedents⟩
  | edit e =>
    have place := congrArg Draft.Place.level (state.draft.place_step dialect e)
    cases e with
    | dedent =>
      cases level with
      | zero => cases levels
      | succ n =>
        cases levels
        refine ⟨?_, fun _ => ?_⟩
        · show state.draft.indent - 1 = base + next
          omega
        · omega
    | indent =>
      cases levels
      refine ⟨?_, fun dedents => by cases dedents⟩
      show state.draft.indent + 1 = base + (level + 1)
      omega
    | _ =>
      cases levels
      exact ⟨place.trans starts, fun dedents => by cases dedents⟩

/-- A visit ends on the level that its tasks lead to, and never leaves a block that was open when it
began. -/
theorem Visits.indent {ctx : RenderContext} {tasks : List Task} {before after : Translator}
    {history : List Moment} (visits : Visits ctx tasks before history after)
    {base level next : Nat} (levels : levelBehind tasks level = some next)
    (starts : before.draft.indent = base + level) :
    after.draft.indent = base + next ∧
      ∀ moment ∈ history, moment.piece = .edit .dedent → 0 < moment.translator.draft.indent := by
  induction visits generalizing base level next with
  | nil =>
    cases levels
    exact ⟨starts, List.forall_mem_nil _⟩
  | piece piece _ ih =>
    rw [levelBehind_cons] at levels
    obtain ⟨middle, stepped, rest⟩ := Option.bind_eq_some_iff.1 levels
    obtain ⟨written, inside⟩ := Script.State.indent_step ctx.dialect stepped starts
    obtain ⟨ends, later⟩ := ih rest written
    exact ⟨ends, List.forall_mem_cons.2 ⟨inside, later⟩⟩
  -- What is opened for a task is closed in it, so its own level is the base of what it produces.
  | node _ produces _ _ ihInner ihRest =>
    obtain ⟨kept, inside⟩ := ihInner (produces.closed.levelBehind_tasks 0) (Nat.add_zero _).symm
    obtain ⟨ends, later⟩ := ihRest levels (kept.trans starts)
    exact ⟨ends, List.forall_mem_append.2 ⟨inside, later⟩⟩
  | column _ _ ihInner ihRest =>
    obtain ⟨kept, inside⟩ :=
      ihInner (((Form.isKept_closed ctx).column _ _).levelBehind_tasks 0) (Nat.add_zero _).symm
    obtain ⟨ends, later⟩ := ihRest levels (kept.trans starts)
    exact ⟨ends, List.forall_mem_append.2 ⟨inside, later⟩⟩
  | select _ _ _ _ ihInner ihRest =>
    obtain ⟨kept, inside⟩ := ihInner (Task.levelBehind_select ctx _ _ _ 0) (Nat.add_zero _).symm
    obtain ⟨ends, later⟩ := ihRest levels (kept.trans starts)
    exact ⟨ends, List.forall_mem_append.2 ⟨List.forall_mem_map.2 inside, later⟩⟩

/-! ## The frame of a visit -/

/-- What a visit leaves as it was: the count of selects, the level and all that had been written. -/
structure Translator.Frames (before after : Translator) : Prop where
  depth : after.depth = before.depth
  indent : after.draft.indent = before.draft.indent
  extended : before.toState.Extends after.toState

theorem Node.Visited.frames {ctx : RenderContext} {node : Node} {before after : Translator}
    {history : List Moment} (visited : node.Visited ctx before history after) :
    before.Frames after ∧
      ∀ moment ∈ history, moment.piece = .edit .dedent → 0 < moment.translator.draft.indent := by
  have levels : levelBehind (Form.node node).tasks 0 = some 0 := rfl
  obtain ⟨indent, inside⟩ := Visits.indent visited levels (Nat.add_zero _).symm
  refine ⟨⟨visited.depth_eq, indent, ?_⟩, inside⟩
  rw [Visits.state_eq visited]
  exact Script.extends_run ctx.dialect _ _

/-! ## Visits and derivations -/

/-- Where a node stands: the outermost select outside of all others, and all else in a select. -/
def Node.StandsAt (depth : Int) : Node → Prop
  | .select outermost _ => -1 ≤ depth ∧ outermost = decide (depth + 1 = 0)
  | _ => 0 ≤ depth

theorem Node.standsAt_of_nested {node : Node} {depth : Int} (nested : node.isOutermost = false)
    (inside : 0 ≤ depth) : node.StandsAt depth := by
  cases node with
  | select outermost s =>
    have deeper : ¬depth + 1 = 0 := by omega
    exact ⟨by omega, Eq.trans nested (decide_eq_false deeper).symm⟩
  | _ => exact inside

theorem Node.nonneg_of_standsAt {node : Node} {depth : Int} (stands : node.StandsAt depth)
    (other : node.isSelect = false) : 0 ≤ depth := by
  cases node with
  | select _ _ => cases other
  | _ => exact stands

/-- Where what is left to be visited stands: a column is in a select. -/
def Task.StandsAt (depth : Int) : Task → Prop
  | .symbol (.piece _) => True
  | .symbol (.node node) => node.StandsAt depth
  | .column _ => 0 ≤ depth

theorem Form.Closed.standAt {form : Form} (closed : form.Closed) {depth : Int}
    (inside : 0 ≤ depth) : ∀ task ∈ form.tasks, task.StandsAt depth := by
  refine List.forall_mem_map.2 fun symbol member => ?_
  cases symbol with
  | piece p => trivial
  | node n => exact Node.standsAt_of_nested (closed.nested n member) inside

theorem Task.standAt_select (ctx : RenderContext) (query : Select) (items : List Column)
    (keys : List Expr) {depth : Int} (inside : 0 ≤ depth) :
    ∀ task ∈ select ctx query items keys, task.StandsAt depth := by
  refine @select_of_kept (fun tasks => ∀ task ∈ tasks, task.StandsAt depth) ?_ ?_ ?_
    ctx query items keys
  · exact fun start rest => List.forall_mem_append.2 ⟨start, rest⟩
  · exact fun closed => closed.standAt inside
  · exact fun _ => List.forall_mem_singleton.2 inside

/-- The form of a task at a count of selects. -/
def Task.form (ctx : RenderContext) (depth : Int) : Task → Form
  | .symbol s => [s]
  | .column c => Form.column ctx (depth = 0) c

/-- The form of some tasks, if the count is the same at all of them. -/
def Task.forms (ctx : RenderContext) (depth : Int) (tasks : List Task) : Form :=
  tasks.flatMap (Task.form ctx depth)

namespace Task

variable (ctx : RenderContext) (depth : Int)

theorem forms_append (first second : List Task) :
    forms ctx depth (first ++ second) = forms ctx depth first ++ forms ctx depth second :=
  List.flatMap_append

theorem forms_tasks (form : Form) : forms ctx depth form.tasks = form := by
  rw [forms, Form.tasks, List.flatMap_map]
  exact List.flatMap_singleton' form

theorem forms_separated (items : List Column) :
    forms ctx depth (separated items) =
      Form.separated ", " (items.map (Form.column ctx (depth = 0))) := by
  induction items with
  | nil => rfl
  | cons c rest ih =>
    cases rest with
    | nil => exact List.append_nil _
    | cons next others =>
      have first : forms ctx depth (separated (c :: next :: others)) =
          Form.column ctx (depth = 0) c ++
            forms ctx depth ((Form.text ", ").tasks ++ separated (next :: others)) := rfl
      rw [first, forms_append, forms_tasks, ih, ← List.append_assoc]
      rfl

theorem forms_select (query : Select) (items : List Column) (keys : List Expr) :
    forms ctx depth (select ctx query items keys) =
      Form.select ctx (depth = 0) query items keys := by
  have columns : forms ctx depth (columns items) = Form.columns ctx (depth = 0) items := by
    unfold Task.columns Form.columns
    split
    · exact forms_tasks ctx depth _
    · exact forms_separated ctx depth items
  rw [select, forms_append, forms_append, forms_tasks, forms_tasks, columns, Form.select_eq]

end Task

section Derivations

variable {ctx : RenderContext} {tasks : List Task} {before after : Translator}
  {history : List Moment}

/-- What is visited is derived, from the form that the count at the beginning gives. -/
theorem Visits.renders (visits : Visits ctx tasks before history after)
    (stand : ∀ task ∈ tasks, task.StandsAt before.depth) :
    Renders ctx (Task.forms ctx before.depth tasks) (written history) := by
  induction visits with
  | nil => exact .nil
  | piece piece _ ih => exact .piece piece (ih (List.forall_mem_cons.1 stand).2)
  | node other produces inside _ ihInner ihRest =>
    obtain ⟨own, others⟩ := List.forall_mem_cons.1 stand
    have inner := ihInner (produces.closed.standAt (Node.nonneg_of_standsAt own other))
    rw [inside.depth_eq] at ihRest
    rw [Task.forms_tasks] at inner
    rw [written_append]
    exact .node produces inner (ihRest others)
  | column inside _ ihInner ihRest =>
    obtain ⟨own, others⟩ := List.forall_mem_cons.1 stand
    have inner := ihInner (((Form.isKept_closed ctx).column _ _).standAt own)
    rw [inside.depth_eq] at ihRest
    rw [Task.forms_tasks] at inner
    rw [written_append]
    exact inner.append (ihRest others)
  | @select outermost select columns plan keys _ before _ _ _ _ flattened found inside _ ihInner
      ihRest =>
    obtain ⟨⟨above, mark⟩, others⟩ := List.forall_mem_cons.1 stand
    have entered : 0 ≤ before.enter.depth := Int.add_le_add_right above 1
    have inner := ihInner (Task.standAt_select ctx select columns keys entered)
    rw [inside.depth_leave] at ihRest
    rw [Task.forms_select] at inner
    rw [written_append, written_inward]
    subst mark
    exact .node (.select flattened found) inner (ihRest others)

/-- A visit of tasks is a visit of some of them and then of the others. -/
theorem Visits.exists_of_append {first second : List Task}
    (visits : Visits ctx (first ++ second) before history after) :
    ∃ middle inner later, history = inner ++ later ∧ Visits ctx first before inner middle ∧
      Visits ctx second middle later after := by
  induction first generalizing before history with
  | nil => exact ⟨before, [], history, rfl, .nil, visits⟩
  | cons task rest ih =>
    cases visits with
    | piece piece visits =>
      obtain ⟨middle, inner, later, rfl, start, others⟩ := ih visits
      exact ⟨middle, _, later, rfl, .piece piece start, others⟩
    | node other produces inside visits =>
      obtain ⟨middle, inner, later, rfl, start, others⟩ := ih visits
      exact ⟨middle, _, later, (List.append_assoc ..).symm, .node other produces inside start,
        others⟩
    | column inside visits =>
      obtain ⟨middle, inner, later, rfl, start, others⟩ := ih visits
      exact ⟨middle, _, later, (List.append_assoc ..).symm, .column inside start, others⟩
    | select flattened found inside visits =>
      obtain ⟨middle, inner, later, rfl, start, others⟩ := ih visits
      exact ⟨middle, _, later, (List.append_assoc ..).symm, .select flattened found inside start,
        others⟩

/-- Columns can be settled as they are reached: since every visit restores the count, it says the
same then as at the beginning, whatever has been visited in between. -/
theorem Visits.of_forms {depth : Int} (starts : before.depth = depth)
    (visits : Visits ctx (Task.forms ctx depth tasks).tasks before history after) :
    Visits ctx tasks before history after := by
  induction tasks generalizing before history with
  | nil => exact visits
  | cons task rest ih =>
    cases task with
    | column c =>
      rw [Task.forms, List.flatMap_cons, Form.tasks_append] at visits
      obtain ⟨middle, inner, later, rfl, inside, others⟩ := visits.exists_of_append
      subst starts
      exact .column inside (ih inside.depth_eq others)
    | symbol symbol =>
      cases visits with
      | piece piece visits => exact .piece piece (ih starts visits)
      | node other produces inside visits =>
        exact .node other produces inside (ih (inside.depth_eq.trans starts) visits)
      | select flattened found inside visits =>
        exact .select flattened found inside (ih (inside.depth_leave.trans starts) visits)

/-- What is derived is visited. -/
theorem Renders.exists_visits {form : Form} {script : Script} (renders : Renders ctx form script)
    (stand : ∀ task ∈ form.tasks, task.StandsAt before.depth) :
    ∃ history, written history = script ∧
      Visits ctx form.tasks before history (before.run ctx.dialect script) := by
  induction renders generalizing before with
  | nil => exact ⟨[], rfl, .nil⟩
  | piece piece _ ih =>
    have others := (List.forall_mem_cons.1 stand).2
    obtain ⟨history, rfl, visits⟩ := @ih (before.write ctx.dialect piece) others
    exact ⟨⟨0, before, piece⟩ :: history, rfl, .piece piece visits⟩
  | @node node _ _ first _ produces _ _ ihInner ihRest =>
    obtain ⟨own, others⟩ := List.forall_mem_cons.1 stand
    obtain ⟨later, rfl, rest⟩ := @ihRest (before.run ctx.dialect first) others
    rw [← Translator.run_append] at rest
    cases node with
    | select outermost s =>
      obtain ⟨above, rfl⟩ := own
      have inside : 0 ≤ before.enter.depth := Int.add_le_add_right above 1
      obtain ⟨inner, rfl, visits⟩ := ihInner (produces.closed.standAt inside)
      rw [← Translator.leave_run_enter] at rest
      cases produces with
      | @select _ _ columns _ keys flattened found =>
        have settled : Form.select ctx (before.depth + 1 = 0) s columns keys =
          Task.forms ctx before.enter.depth (Task.select ctx s columns keys) :=
            (Task.forms_select ctx before.enter.depth s columns keys).symm
        rw [settled] at visits
        refine ⟨inner.map Moment.inward ++ later, ?_,
          .select flattened found (visits.of_forms rfl) rest⟩
        rw [written_append, written_inward]
    | _ =>
      obtain ⟨inner, rfl, visits⟩ := ihInner (produces.closed.standAt own)
      exact ⟨inner ++ later, written_append inner later, .node rfl produces visits rest⟩

/-- A visit of a node that stands where it belongs does what its rendering does. -/
theorem Node.exists_visited_iff {node : Node} {levels : Nat} (enough : node.part.depth ≤ levels)
    (stands : node.StandsAt before.depth) {script : Script} :
    (∃ history, written history = script ∧ node.Visited ctx before history after) ↔
      node.render ctx (.level ctx levels) = .ok script ∧
        after = before.run ctx.dialect script := by
  have stand : ∀ task ∈ (Form.node node).tasks, task.StandsAt before.depth :=
    List.forall_mem_singleton.2 stands
  rw [Node.render_eq_ok_iff enough]
  constructor
  · rintro ⟨history, rfl, visited⟩
    have renders := Visits.renders visited stand
    rw [Task.forms_tasks] at renders
    exact ⟨renders, Visits.eq_run visited⟩
  · rintro ⟨renders, rfl⟩
    exact renders.exists_visits stand

end Derivations

end SqlLowering
