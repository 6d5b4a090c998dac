import SqlLowering.Command.Draft
import SqlLowering.Proofs.Outcome

/-!
# Drafts are read from left to right

A draft keeps an open segment, closed segments, steps and parameters, and decides at its end whether
the text is fixed. None of this shows. The plain reading of edits, `Draft.Edit.readAll`, has no
segments: it goes through the edits from left to right with a level and a number, and notes the text
and the bound parameters that it meets as `Mark`s.

A draft means what its steps add to a command, the open segment included (`Draft.meaning`). Every
edit adds the marks of its plain reading to that meaning (`Draft.meaning_step`), so a run of edits
adds the marks of all of them (`Draft.meaning_run`). The fixed text and its parameters are a second
record of the same steps (`Draft.Booked`), which is why a recipe without lists may use them instead.
-/

namespace SqlLowering

/-! ## The plain reading of edits -/

/-- What the reading of edits meets: text that stands for itself, or the placeholder of a parameter
that gets a value. -/
inductive Mark where
  | literal (text : String)
  | placeholder (shown : String) (parameter : Parameter)

namespace Mark

/-- What a mark shows in the text of a command. -/
def text : Mark → String
  | .literal text => text
  | .placeholder shown _ => shown

/-- The parameter that a mark binds. -/
def parameter? : Mark → Option Parameter
  | .literal _ => none
  | .placeholder _ parameter => some parameter

/-- The command that marks amount to. -/
def command (marks : List Mark) : Command :=
  ⟨String.join (marks.map Mark.text), marks.filterMap Mark.parameter?⟩

/-- The placeholder of an element of a collection. -/
def ofElement (dialect : Dialect) (name : String) (element : Value × Nat) : Mark :=
  .placeholder (dialect.placeholder name ++ toString element.2)
    ⟨name ++ toString element.2, element.1⟩

/-- The placeholders of the elements of a collection with commas between them, or what stands for a
collection without elements. -/
def ofElements (dialect : Dialect) (name : String) : List Value → List Mark
  | [] => [.literal dialect.emptyList]
  | items => (items.zipIdx.map (ofElement dialect name)).intersperse (.literal ", ")

end Mark

namespace Draft

/-- Where the reading of edits stands: the level of the text, and the number of the next parameter
or list. -/
structure Place where
  level : Nat
  number : Nat

/-- The name of the next parameter or list. -/
def Place.name (place : Place) : String :=
  "p" ++ toString place.number

/-- Where the reading stands after an edit. -/
def Edit.next (place : Place) : Edit → Place
  | .append _ | .newline => place
  | .indent => { place with level := place.level + 1 }
  | .dedent => { place with level := place.level - 1 }
  | .parameter _ | .list _ => { place with number := place.number + 1 }

/-- The marks of an edit. -/
def Edit.marks (dialect : Dialect) (indentWidth : Nat) (inputs : Inputs) (place : Place) :
    Edit → Except CommandError (List Mark)
  | .append sql => .ok [.literal sql]
  | .newline =>
    .ok [.literal ("\n" ++ String.ofList (List.replicate (place.level * indentWidth) ' '))]
  | .indent | .dedent => .ok []
  | .parameter value =>
    match value.eval inputs with
    | .ok v => .ok [.placeholder (dialect.placeholder place.name) ⟨place.name, v⟩]
    | .error error => .error (.eval place.name error)
  | .list source =>
    match source.eval inputs with
    | .ok (.array items) => .ok (Mark.ofElements dialect (place.name ++ "_") items)
    | .ok .null => .ok (Mark.ofElements dialect (place.name ++ "_") [])
    | .ok other => .error (.notACollection (place.name ++ "_") other.kind)
    | .error error => .error (.eval (place.name ++ "_") error)

/-- The marks of edits from left to right. The first edit whose values cannot be had ends the
reading. -/
def Edit.readAll (dialect : Dialect) (indentWidth : Nat) (inputs : Inputs) :
    Place → List Edit → Except CommandError (List Mark)
  | _, [] => .ok []
  | place, edit :: rest => do
    let first ← edit.marks dialect indentWidth inputs place
    let others ← Edit.readAll dialect indentWidth inputs (edit.next place) rest
    return first ++ others

/-- A parameter that is read has one mark. -/
theorem Edit.marks_parameter {dialect : Dialect} {indentWidth : Nat} {inputs : Inputs}
    {place : Place} {value : Expr} {marks : List Mark}
    (read : (Edit.parameter value).marks dialect indentWidth inputs place = .ok marks) :
    ∃ v, marks = [.placeholder (dialect.placeholder place.name) ⟨place.name, v⟩] := by
  rw [Edit.marks] at read
  split at read
  · cases read
    exact ⟨_, rfl⟩
  · cases read

/-- A collection that is read has the marks of its elements. -/
theorem Edit.marks_list {dialect : Dialect} {indentWidth : Nat} {inputs : Inputs}
    {place : Place} {source : Expr} {marks : List Mark}
    (read : (Edit.list source).marks dialect indentWidth inputs place = .ok marks) :
    ∃ items, marks = Mark.ofElements dialect (place.name ++ "_") items := by
  rw [Edit.marks] at read
  split at read
  · cases read
    exact ⟨_, rfl⟩
  · cases read
    exact ⟨[], rfl⟩
  · cases read
  · cases read

/-- Whether an edit binds a collection. -/
def Edit.isList : Edit → Bool
  | .list _ => true
  | _ => false

end Draft

/-! ## Commands in sequence -/

/-- What two steps add to a command one after the other. -/
def Command.append (first second : Command) : Command :=
  ⟨first.text ++ second.text, first.parameters ++ second.parameters⟩

@[simp]
theorem Command.empty_append (command : Command) : Command.empty.append command = command := by
  simp [Command.append, Command.empty]

theorem Command.append_assoc (first second third : Command) :
    (first.append second).append third = first.append (second.append third) := by
  simp [Command.append, String.append_assoc]

theorem Mark.command_append (first second : List Mark) :
    Mark.command (first ++ second) = (Mark.command first).append (Mark.command second) := by
  simp [Mark.command, Command.append, String.join_append]

@[simp]
theorem Mark.command_literal (text : String) : Mark.command [.literal text] = ⟨text, []⟩ := by
  simp [Mark.command, Mark.text, Mark.parameter?, List.filterMap]

theorem Command.foldl_addParameter (command : Command) (parameters : List Parameter) :
    parameters.foldl Command.addParameter command =
      ⟨command.text, command.parameters ++ parameters⟩ := by
  induction parameters generalizing command with
  | nil => simp
  | cons parameter rest ih =>
    rw [List.foldl_cons, ih]
    simp [Command.addParameter]

/-- Steps in a row run one list after the other, and the first error of either is the error of both.
-/
theorem Step.runAll_append (inputs : Inputs) (first second : List Step) :
    Step.runAll inputs (first ++ second) = do
      let before ← Step.runAll inputs first
      let after ← Step.runAll inputs second
      return before.append after := by
  induction first with
  | nil =>
    rw [List.nil_append, Step.runAll]
    cases Step.runAll inputs second <;> simp [bind, Except.bind, pure, Except.pure]
  | cons step rest ih =>
    rw [List.cons_append, Step.runAll, Step.runAll, ih]
    cases step.run inputs with
    | error _ => rfl
    | ok added =>
      cases Step.runAll inputs rest with
      | error _ => rfl
      | ok before =>
        cases Step.runAll inputs second with
        | error _ => rfl
        | ok after =>
          simp [bind, Except.bind, pure, Except.pure, Command.append, String.append_assoc]

theorem ListBinding.map_name_parameters (list : ListBinding) (elements : List Value) :
    (list.parameters elements).map (·.name) =
      (List.range elements.length).map fun i => list.namePrefix ++ toString i := by
  rw [ListBinding.parameters, List.map_map, List.range_eq_range', ← List.zipIdx_map_snd,
    List.map_map]
  rfl

/-! ## What a draft means -/

/-- Text between marks shows in the text and binds nothing. -/
theorem Mark.command_intersperse (separator : String) (marks : List Mark) :
    Mark.command (marks.intersperse (.literal separator)) =
      ⟨separator.intercalate (marks.map Mark.text), marks.filterMap Mark.parameter?⟩ := by
  induction marks with
  | nil => simp [Mark.command]
  | cons first rest ih =>
    cases rest with
    | nil => simp [Mark.command]
    | cons second others =>
      have opened : ((first :: second :: others).intersperse (.literal separator)) =
          [first, .literal separator] ++ (second :: others).intersperse (.literal separator) := rfl
      rw [opened, Mark.command_append, ih]
      cases first <;>
        simp [Mark.command, Command.append, Mark.text, Mark.parameter?, List.filterMap_cons,
          String.append_assoc]

/-- The marks of the elements of a collection are the placeholders and parameters that a step binds
for them. -/
theorem Mark.command_ofElements (dialect : Dialect) (list : ListBinding) (items : List Value)
    (shown : list.placeholderPrefix = dialect.placeholder list.namePrefix)
    (empty : list.emptyList = dialect.emptyList) :
    Mark.command (Mark.ofElements dialect list.namePrefix items) =
      ⟨list.placeholders items.length, list.parameters items⟩ := by
  cases items with
  | nil => simp [Mark.ofElements, ListBinding.placeholders, ListBinding.parameters, empty]
  | cons item rest =>
    have numbers : (item :: rest).zipIdx.map Prod.snd = List.range (item :: rest).length := by
      rw [List.zipIdx_map_snd, List.range_eq_range']
    rw [Mark.ofElements, Mark.command_intersperse, ListBinding.placeholders, if_neg (by simp),
      ← numbers, ListBinding.parameters, List.map_map, List.map_map, List.filterMap_map]
    · congr 1
      · simp only [Function.comp_def, Mark.ofElement, Mark.text, shown]
      · rw [← List.filterMap_eq_map]
        rfl
    · simp

namespace Draft

/-- Where the reading stands that a draft has come to. -/
def place (draft : Draft) : Place :=
  ⟨draft.indent, draft.nextParameter⟩

/-- What the steps of a draft add to a command, the open segment included. -/
def meaning (inputs : Inputs) (draft : Draft) : Except CommandError Command := do
  let before ← Step.runAll inputs draft.steps
  return before.append ⟨draft.segment, []⟩

/-- Closing the segment does not change what a draft means. -/
theorem runAll_flush (inputs : Inputs) (draft : Draft) :
    Step.runAll inputs draft.flush.steps = draft.meaning inputs := by
  unfold Draft.flush Draft.meaning
  split
  next empty =>
    rw [String.isEmpty_iff] at empty
    cases Step.runAll inputs draft.steps <;>
      simp [bind, Except.bind, pure, Except.pure, Command.append, empty]
  · rw [Step.runAll_append]
    cases Step.runAll inputs draft.steps <;>
      simp [bind, Except.bind, pure, Except.pure, Command.append, Step.runAll, Step.run,
        Command.empty]

theorem meaning_append (inputs : Inputs) (draft : Draft) (sql : String) :
    (draft.append sql).meaning inputs = do
      let before ← draft.meaning inputs
      return before.append ⟨sql, []⟩ := by
  unfold Draft.meaning Draft.append
  cases Step.runAll inputs draft.steps <;>
    simp [bind, Except.bind, pure, Except.pure, Command.append, String.append_assoc]

@[simp]
theorem indent_flush (draft : Draft) : draft.flush.indent = draft.indent := by
  unfold Draft.flush
  split <;> rfl

@[simp]
theorem indentWidth_flush (draft : Draft) : draft.flush.indentWidth = draft.indentWidth := by
  unfold Draft.flush
  split <;> rfl

@[simp]
theorem segment_flush (draft : Draft) : draft.flush.segment = "" := by
  unfold Draft.flush
  split
  next empty => exact String.isEmpty_iff.1 empty
  · rfl

/-- A step behind a closed segment adds what it adds to what the draft meant. -/
theorem meaning_of_steps (inputs : Inputs) (draft : Draft) {after : Draft} {step : Step}
    (steps : after.steps = draft.flush.steps ++ [step]) (closed : after.segment = "") :
    after.meaning inputs = do
      let before ← draft.meaning inputs
      let added ← step.run inputs
      return before.append added := by
  rw [Draft.meaning, steps, closed, Step.runAll_append, runAll_flush]
  cases draft.meaning inputs with
  | error _ => rfl
  | ok before =>
    rw [Step.runAll, Step.runAll]
    cases step.run inputs <;>
      simp [bind, Except.bind, pure, Except.pure, Command.append, Command.empty]

/-- A parameter adds its marks to what the draft means, and its error comes after those before it.
-/
theorem meaning_parameter (dialect : Dialect) (inputs : Inputs) (draft : Draft) (value : Expr) :
    (draft.parameter dialect value).meaning inputs = do
      let before ← draft.meaning inputs
      let marks ← (Edit.parameter value).marks dialect draft.indentWidth inputs draft.place
      return before.append (Mark.command marks) := by
  have stepped : (draft.parameter dialect value).meaning inputs = _ :=
    meaning_of_steps inputs (draft.append (dialect.placeholder draft.nextName)) rfl
      (segment_flush _)
  rw [stepped, meaning_append]
  cases draft.meaning inputs with
  | error _ => rfl
  | ok before =>
    have name : draft.nextName = draft.place.name := rfl
    simp only [Step.run, Binding.bind, Edit.marks, name]
    cases value.eval inputs <;>
      simp [bind, Except.bind, pure, Except.pure, Command.append, Mark.command, Mark.text,
        Mark.parameter?]

/-- A list adds its marks to what the draft means, and its error comes after those before it. -/
theorem meaning_list (dialect : Dialect) (inputs : Inputs) (draft : Draft) (source : Expr) :
    (draft.list dialect source).meaning inputs = do
      let before ← draft.meaning inputs
      let marks ← (Edit.list source).marks dialect draft.indentWidth inputs draft.place
      return before.append (Mark.command marks) := by
  have stepped : (draft.list dialect source).meaning inputs = _ :=
    meaning_of_steps inputs draft rfl (segment_flush _)
  rw [stepped]
  cases draft.meaning inputs with
  | error _ => rfl
  | ok before =>
    have name : draft.nextName ++ "_" = draft.place.name ++ "_" := rfl
    have elements := fun items => Mark.command_ofElements dialect
      ⟨draft.place.name ++ "_", dialect.placeholder (draft.place.name ++ "_"), dialect.emptyList,
        source⟩ items rfl rfl
    simp only [Step.run, ListBinding.elements, Edit.marks, name]
    cases source.eval inputs with
    | error _ => rfl
    | ok evaluated =>
      cases evaluated with
      | array items => simp [bind, Except.bind, pure, Except.pure, elements items]
      | null => simp [bind, Except.bind, pure, Except.pure, elements []]
      | _ => rfl

/-- An edit adds its marks to what a draft means. -/
theorem meaning_step (dialect : Dialect) (inputs : Inputs) (draft : Draft) (edit : Edit) :
    (draft.step dialect edit).meaning inputs = do
      let before ← draft.meaning inputs
      let marks ← edit.marks dialect draft.indentWidth inputs draft.place
      return before.append (Mark.command marks) := by
  have unchanged : draft.meaning inputs = do
      let before ← draft.meaning inputs
      return before.append (Mark.command []) := by
    cases draft.meaning inputs <;>
      simp [bind, Except.bind, pure, Except.pure, Command.append, Mark.command]
  cases edit with
  | append sql =>
    rw [step, meaning_append]
    simp [Edit.marks, bind, Except.bind]
  | newline =>
    rw [step, meaning_append]
    simp [Edit.marks, bind, Except.bind, lineBreak, place]
  | indent => exact unchanged
  | dedent => exact unchanged
  | parameter value => exact meaning_parameter dialect inputs draft value
  | list source => exact meaning_list dialect inputs draft source

@[simp]
theorem place_step (dialect : Dialect) (draft : Draft) (edit : Edit) :
    (draft.step dialect edit).place = edit.next draft.place := by
  cases edit with
  | append sql => rfl
  | newline => rfl
  | indent => rfl
  | dedent => rfl
  | parameter value => simp [step, parameter, place, append, Edit.next]
  | list source => simp [step, list, place, Edit.next]

@[simp]
theorem indentWidth_step (dialect : Dialect) (draft : Draft) (edit : Edit) :
    (draft.step dialect edit).indentWidth = draft.indentWidth := by
  cases edit with
  | append sql => rfl
  | newline => rfl
  | indent => rfl
  | dedent => rfl
  | parameter value => simp [step, parameter, append]
  | list source => simp [step, list]

theorem run_cons (dialect : Dialect) (draft : Draft) (edit : Edit) (rest : List Edit) :
    draft.run dialect (edit :: rest) = (draft.step dialect edit).run dialect rest :=
  rfl

/-- What every edit keeps, edits keep. -/
theorem run_invariant {dialect : Dialect} {holds : Draft → Prop}
    (kept : ∀ {draft : Draft} (edit : Edit), holds draft → holds (draft.step dialect edit))
    {draft : Draft} (before : holds draft) (edits : List Edit) :
    holds (draft.run dialect edits) := by
  induction edits generalizing draft with
  | nil => exact before
  | cons edit rest ih => exact ih (kept edit before)

/-- Edits add their marks, from left to right, to what a draft means. -/
theorem meaning_run (dialect : Dialect) (inputs : Inputs) (draft : Draft) (edits : List Edit) :
    (draft.run dialect edits).meaning inputs = do
      let before ← draft.meaning inputs
      let marks ← Edit.readAll dialect draft.indentWidth inputs draft.place edits
      return before.append (Mark.command marks) := by
  induction edits generalizing draft with
  | nil =>
    cases h : draft.meaning inputs <;>
      simp [Edit.readAll, run, h, bind, Except.bind, pure, Except.pure, Command.append,
        Mark.command]
  | cons edit rest ih =>
    rw [run_cons, ih, meaning_step, place_step, indentWidth_step, Edit.readAll]
    cases draft.meaning inputs with
    | error _ => rfl
    | ok before =>
      cases edit.marks dialect draft.indentWidth inputs draft.place with
      | error _ => rfl
      | ok marks =>
        cases Edit.readAll dialect draft.indentWidth inputs (edit.next draft.place) rest with
        | error _ => rfl
        | ok others =>
          simp [bind, Except.bind, pure, Except.pure, Mark.command_append, Command.append_assoc]

end Draft

/-! ## The second record of the steps -/

namespace Step

/-- The text of a step that is text. -/
def text? : Step → Option String
  | .text sql => some sql
  | _ => none

/-- The parameter of a step that binds one. -/
def binding? : Step → Option Binding
  | .parameter binding => some binding
  | _ => none

/-- Whether a step binds a collection. -/
def isList : Step → Bool
  | .list _ => true
  | _ => false

/-- Without lists, steps add their texts and, apart from them, their parameters. -/
theorem runAll_of_no_list (inputs : Inputs) {steps : List Step} (no : steps.any isList = false) :
    Step.runAll inputs steps = do
      let bound ← (steps.filterMap binding?).mapM (·.bind inputs)
      return ⟨String.join (steps.filterMap text?), bound⟩ := by
  induction steps with
  | nil => rfl
  | cons step rest ih =>
    simp only [List.any_cons, Bool.or_eq_false_iff] at no
    rw [Step.runAll, ih no.2]
    cases step with
    | text sql =>
      simp only [Step.run, List.filterMap_cons, text?, binding?, String.join_cons]
      cases (rest.filterMap binding?).mapM (·.bind inputs) <;>
        simp [bind, Except.bind, pure, Except.pure]
    | parameter binding =>
      simp only [Step.run, List.filterMap_cons, text?, binding?, List.mapM_cons]
      cases binding.bind inputs with
      | error _ => rfl
      | ok parameter =>
        cases (rest.filterMap binding?).mapM (·.bind inputs) <;>
          simp [bind, Except.bind, pure, Except.pure]
    | list binding => simp [isList] at no

end Step

namespace Draft

/-- The closed text, the parameters and the flag of a draft record what its steps say. -/
structure Booked (draft : Draft) : Prop where
  closed : draft.closed = String.join (draft.steps.filterMap Step.text?)
  parameters : draft.parameters = draft.steps.filterMap Step.binding?
  hasList : draft.hasList = draft.steps.any Step.isList

theorem booked_start (indentWidth : Nat) : (start indentWidth).Booked :=
  ⟨by simp [start], rfl, rfl⟩

theorem Booked.flush {draft : Draft} (booked : draft.Booked) : draft.flush.Booked := by
  unfold Draft.flush
  split
  · exact booked
  · refine ⟨?_, ?_, ?_⟩
    · simp [booked.closed, Step.text?, String.join_append]
    · simp [booked.parameters, Step.binding?]
    · simp [booked.hasList, Step.isList]

theorem Booked.append {draft : Draft} (booked : draft.Booked) (sql : String) :
    (draft.append sql).Booked :=
  ⟨booked.closed, booked.parameters, booked.hasList⟩

/-- An edit books what it adds to the steps. -/
theorem Booked.step {draft : Draft} (booked : draft.Booked) (dialect : Dialect) (edit : Edit) :
    (draft.step dialect edit).Booked := by
  cases edit with
  | append sql => exact booked.append sql
  | newline => exact booked.append _
  | indent => exact ⟨booked.closed, booked.parameters, booked.hasList⟩
  | dedent => exact ⟨booked.closed, booked.parameters, booked.hasList⟩
  | parameter value =>
    have flushed := (booked.append (dialect.placeholder draft.nextName)).flush
    refine ⟨?_, ?_, ?_⟩
    · simp [Draft.step, Draft.parameter, flushed.closed, List.filterMap_cons, Step.text?]
    · simp [Draft.step, Draft.parameter, flushed.parameters, Step.binding?]
    · simp [Draft.step, Draft.parameter, flushed.hasList, Step.isList]
  | list source =>
    have flushed := booked.flush
    refine ⟨?_, ?_, ?_⟩
    · simp [Draft.step, Draft.list, flushed.closed, List.filterMap_cons, Step.text?]
    · simp [Draft.step, Draft.list, flushed.parameters, Step.binding?]
    · simp [Draft.step, Draft.list, Step.isList]

theorem Booked.run {draft : Draft} (booked : draft.Booked) (dialect : Dialect)
    (edits : List Edit) : (draft.run dialect edits).Booked :=
  run_invariant (fun edit before => before.step dialect edit) booked edits

theorem finish_of_hasList {draft : Draft} (listed : draft.flush.hasList = true) :
    draft.finish = .stepwise draft.flush.steps := by
  simp [Draft.finish, listed]

theorem finish_of_no_list {draft : Draft} (listed : draft.flush.hasList = false) :
    draft.finish = .fixed draft.flush.closed draft.flush.parameters := by
  simp [Draft.finish, listed]

/-- The recipe of a draft builds what the draft means, with a fixed text or step by step. -/
theorem Booked.build_finish {draft : Draft} (booked : draft.Booked) (inputs : Inputs) :
    draft.finish.build inputs = draft.meaning inputs := by
  have flushed := booked.flush
  rw [← runAll_flush]
  cases listed : draft.flush.hasList with
  | true => rw [finish_of_hasList listed, Recipe.build]
  | false =>
    rw [finish_of_no_list listed]
    -- The flag is only a record of the steps, and it is the steps that are without lists.
    rw [flushed.hasList] at listed
    rw [Step.runAll_of_no_list inputs listed, ← flushed.closed, ← flushed.parameters, Recipe.build]

end Draft

/-! ## Applied recipes -/

/-- An applied recipe replaces the text and adds its parameters, or touches nothing. -/
theorem Recipe.applyTo_eq (recipe : Recipe) (command : Command) (inputs : Inputs) :
    recipe.applyTo command inputs =
      match recipe.build inputs with
      | .ok built => (.ok (), ⟨built.text, command.parameters ++ built.parameters⟩)
      | .error error => (.error error, command) := by
  unfold Recipe.applyTo
  cases recipe.build inputs with
  | error error => rfl
  | ok built => simp [Command.foldl_addParameter, Command.setText]

theorem Recipe.apply_eq_ok {recipe : Recipe} {start command : Command} {inputs : Inputs} :
    recipe.apply start inputs = .ok command ↔
      ∃ built, recipe.build inputs = .ok built ∧
        ⟨built.text, start.parameters ++ built.parameters⟩ = command := by
  unfold Recipe.apply
  rw [Recipe.applyTo_eq]
  cases recipe.build inputs <;> simp

namespace Draft

@[simp]
theorem hasList_flush (draft : Draft) : draft.flush.hasList = draft.hasList := by
  unfold Draft.flush
  split <;> rfl

theorem hasList_step (dialect : Dialect) (draft : Draft) (edit : Edit) :
    (draft.step dialect edit).hasList = (draft.hasList || edit.isList) := by
  cases edit with
  | append sql => simp [step, append, Edit.isList]
  | newline => simp [step, append, Edit.isList]
  | indent => simp [step, Edit.isList]
  | dedent => simp [step, Edit.isList]
  | parameter value => simp [step, parameter, append, Edit.isList]
  | list source => simp [step, list, Edit.isList]

theorem hasList_run (dialect : Dialect) (draft : Draft) (edits : List Edit) :
    (draft.run dialect edits).hasList = (draft.hasList || edits.any Edit.isList) := by
  induction edits generalizing draft with
  | nil => simp [run]
  | cons edit rest ih =>
    rw [run_cons, ih, hasList_step, List.any_cons, Bool.or_assoc]

theorem isFixed_finish (draft : Draft) : draft.finish.isFixed = !draft.hasList := by
  cases listed : draft.flush.hasList with
  | true =>
    rw [finish_of_hasList listed, ← hasList_flush, listed]
    rfl
  | false =>
    rw [finish_of_no_list listed, ← hasList_flush, listed]
    rfl

/-- The recipe of a run of edits builds the command of their marks. -/
theorem build_finish_run (dialect : Dialect) (indentWidth : Nat) (edits : List Edit)
    (inputs : Inputs) :
    ((start indentWidth).run dialect edits).finish.build inputs = do
      let marks ← Edit.readAll dialect indentWidth inputs ⟨0, 0⟩ edits
      return Mark.command marks := by
  have nothing : (start indentWidth).meaning inputs = .ok .empty := rfl
  rw [((booked_start indentWidth).run dialect edits).build_finish, meaning_run, nothing]
  have width : (start indentWidth).indentWidth = indentWidth := rfl
  have place : (start indentWidth).place = ⟨0, 0⟩ := rfl
  rw [width, place]
  cases Edit.readAll dialect indentWidth inputs ⟨0, 0⟩ edits <;>
    simp [bind, Except.bind, pure, Except.pure]

/-- Edits in any order, made into a recipe and applied to a command, give it the text and the
parameters of their plain reading, or leave it as it was with the first error of that reading. The
recipe has a fixed text if and only if there is no list, and it always does what its steps, taken
one by one, would do. -/
theorem applyTo_finish_run (dialect : Dialect) (indentWidth : Nat) (edits : List Edit)
    (command : Command) (inputs : Inputs) :
    let draft := (start indentWidth).run dialect edits
    (draft.finish.applyTo command inputs =
      match Edit.readAll dialect indentWidth inputs ⟨0, 0⟩ edits with
      | .ok marks =>
        (.ok (), ⟨String.join (marks.map Mark.text),
          command.parameters ++ marks.filterMap Mark.parameter?⟩)
      | .error error => (.error error, command)) ∧
    draft.finish.isFixed = !edits.any Edit.isList ∧
    (Recipe.stepwise draft.flush.steps).applyTo command inputs =
      draft.finish.applyTo command inputs := by
  intro draft
  refine ⟨?_, ?_, ?_⟩
  · rw [Recipe.applyTo_eq, build_finish_run]
    cases Edit.readAll dialect indentWidth inputs ⟨0, 0⟩ edits <;> rfl
  · rw [isFixed_finish, hasList_run]
    simp [start]
  · have built : draft.finish.build inputs = (Recipe.stepwise draft.flush.steps).build inputs := by
      rw [((booked_start indentWidth).run dialect edits).build_finish, ← runAll_flush, Recipe.build]
    rw [Recipe.applyTo_eq, Recipe.applyTo_eq, built]

end Draft

end SqlLowering
