import SqlLowering.Proofs.Placeholders

/-!
# Values do not reach the text

The layout of a command is what is left of it without the values of its parameters: its text and the
names. A recipe has a layout of its own that knows no inputs, only how many elements each of its
lists has (`Recipe.layout`), and a fixed text does not even need that. Every command that a recipe
builds has the layout of the recipe for the sizes that the inputs give (`Recipe.layout_of_build`),
so inputs with the same sizes give the same layout.
-/

namespace SqlLowering

/-- The text of a command and the names of its parameters. -/
structure Layout where
  text : String
  names : List String

/-- The layout of a command. -/
def Command.layout (command : Command) : Layout :=
  ⟨command.text, command.parameters.map (·.name)⟩

/-- What a step adds to a layout when its list has a given number of elements. -/
def Step.layout (size : ListBinding → Nat) : Step → Layout
  | .text sql => ⟨sql, []⟩
  | .parameter binding => ⟨"", [binding.name]⟩
  | .list binding =>
    ⟨binding.placeholders (size binding),
      (List.range (size binding)).map fun i => binding.namePrefix ++ toString i⟩

/-- The layout of steps, one after the other. -/
def Step.layoutAll (size : ListBinding → Nat) : List Step → Layout
  | [] => ⟨"", []⟩
  | step :: rest =>
    ⟨(step.layout size).text ++ (layoutAll size rest).text,
      (step.layout size).names ++ (layoutAll size rest).names⟩

/-- The layout of a recipe. -/
def Recipe.layout (size : ListBinding → Nat) : Recipe → Layout
  | .fixed text parameters => ⟨text, parameters.map (·.name)⟩
  | .stepwise steps => Step.layoutAll size steps

/-- The collection that a step binds. -/
def Step.list? : Step → Option ListBinding
  | .list binding => some binding
  | _ => none

/-- The collections that a recipe binds. -/
def Recipe.lists : Recipe → List ListBinding
  | .fixed _ _ => []
  | .stepwise steps => steps.filterMap Step.list?

/-! ## Layouts depend on sizes only -/

/-- The layout of steps depends on nothing but the sizes of their lists. -/
theorem Step.layoutAll_congr {size size' : ListBinding → Nat} {steps : List Step}
    (same : ∀ list ∈ steps.filterMap Step.list?, size list = size' list) :
    Step.layoutAll size steps = Step.layoutAll size' steps := by
  induction steps with
  | nil => rfl
  | cons step rest ih =>
    have later : Step.layoutAll size rest = Step.layoutAll size' rest := by
      apply ih
      intro list member
      apply same
      rw [← List.singleton_append, List.filterMap_append]
      exact List.mem_append_right _ member
    have first : step.layout size = step.layout size' := by
      cases step with
      | text sql => rfl
      | parameter binding => rfl
      | list binding => simp only [Step.layout, same binding List.mem_cons_self]
    rw [Step.layoutAll, Step.layoutAll, later, first]

theorem Recipe.layout_congr {size size' : ListBinding → Nat} {recipe : Recipe}
    (same : ∀ list ∈ recipe.lists, size list = size' list) :
    recipe.layout size = recipe.layout size' := by
  cases recipe with
  | fixed text parameters => rfl
  | stepwise steps => exact Step.layoutAll_congr same

/-! ## Commands have the layout of their recipe -/

/-- The number of elements that a collection has for some inputs. -/
def ListBinding.sizeFor (inputs : Inputs) (list : ListBinding) : Nat :=
  match list.elements inputs with
  | .ok elements => elements.length
  | .error _ => 0

theorem ListBinding.sizeFor_of_elements {list : ListBinding} {inputs : Inputs}
    {elements : List Value} (evaluated : list.elements inputs = .ok elements) :
    list.sizeFor inputs = elements.length := by
  simp [ListBinding.sizeFor, evaluated]

theorem Binding.name_of_bind {binding : Binding} {inputs : Inputs} {parameter : Parameter}
    (bound : binding.bind inputs = .ok parameter) : parameter.name = binding.name := by
  unfold Binding.bind at bound
  split at bound
  · cases bound
    rfl
  · cases bound

/-- A step that runs adds text and names of the layout that the sizes of its list give it. -/
theorem Step.layout_of_run {inputs : Inputs} {step : Step} {added : Command}
    (ran : step.run inputs = .ok added) :
    added.layout = step.layout (·.sizeFor inputs) := by
  cases step with
  | text sql =>
    cases ran
    rfl
  | parameter binding =>
    simp only [Step.run, Except.bind_eq_ok, Except.pure_eq_ok] at ran
    obtain ⟨parameter, bound, rfl⟩ := ran
    simp [Command.layout, Step.layout, Binding.name_of_bind bound]
  | list binding =>
    simp only [Step.run, Except.bind_eq_ok, Except.pure_eq_ok] at ran
    obtain ⟨elements, evaluated, rfl⟩ := ran
    rw [Step.layout, ListBinding.sizeFor_of_elements evaluated, Command.layout,
      ListBinding.map_name_parameters]

theorem Step.layout_of_runAll {inputs : Inputs} {steps : List Step} {built : Command}
    (ran : Step.runAll inputs steps = .ok built) :
    built.layout = Step.layoutAll (·.sizeFor inputs) steps := by
  induction steps generalizing built with
  | nil =>
    cases ran
    rfl
  | cons step rest ih =>
    simp only [Step.runAll, Except.bind_eq_ok, Except.pure_eq_ok] at ran
    obtain ⟨first, ranFirst, others, ranOthers, rfl⟩ := ran
    rw [Step.layoutAll, ← Step.layout_of_run ranFirst, ← ih ranOthers]
    simp [Command.layout]

theorem Binding.map_name_of_mapM {inputs : Inputs} {bindings : List Binding}
    {bound : List Parameter} (all : bindings.mapM (·.bind inputs) = .ok bound) :
    bound.map (·.name) = bindings.map (·.name) := by
  induction bindings generalizing bound with
  | nil =>
    cases all
    rfl
  | cons binding rest ih =>
    rw [List.mapM_cons] at all
    simp only [Except.bind_eq_ok, Except.pure_eq_ok] at all
    obtain ⟨parameter, first, others, later, rfl⟩ := all
    rw [List.map_cons, List.map_cons, ih later, Binding.name_of_bind first]

/-- What a recipe builds has the layout of the recipe for the sizes that the inputs give. -/
theorem Recipe.layout_of_build {recipe : Recipe} {inputs : Inputs} {built : Command}
    (builds : recipe.build inputs = .ok built) :
    built.layout = recipe.layout (·.sizeFor inputs) := by
  cases recipe with
  | fixed text parameters =>
    simp only [Recipe.build, Except.bind_eq_ok, Except.pure_eq_ok] at builds
    obtain ⟨bound, all, rfl⟩ := builds
    rw [Command.layout, Recipe.layout, Binding.map_name_of_mapM all]
  | stepwise steps => exact Step.layout_of_runAll builds

/-- An applied recipe puts the names of its layout behind those that were there. -/
theorem Recipe.layout_of_apply {recipe : Recipe} {start command : Command} {inputs : Inputs}
    (applied : recipe.apply start inputs = .ok command) :
    command.layout =
      ⟨(recipe.layout (·.sizeFor inputs)).text,
        start.parameters.map (·.name) ++ (recipe.layout (·.sizeFor inputs)).names⟩ := by
  obtain ⟨built, builds, rfl⟩ := Recipe.apply_eq_ok.1 applied
  rw [← Recipe.layout_of_build builds]
  simp [Command.layout]

/-- Inputs under which the lists of a recipe have the same lengths give commands of the same
layout. -/
theorem Recipe.layout_eq_of_apply {recipe : Recipe} {start command command' : Command}
    {inputs inputs' : Inputs} (applied : recipe.apply start inputs = .ok command)
    (applied' : recipe.apply start inputs' = .ok command')
    (lengths : ∀ list ∈ recipe.lists,
      ∃ elements elements', list.elements inputs = .ok elements ∧
        list.elements inputs' = .ok elements' ∧ elements.length = elements'.length) :
    command.layout = command'.layout := by
  have sizes : ∀ list ∈ recipe.lists, list.sizeFor inputs = list.sizeFor inputs' := by
    intro list member
    obtain ⟨elements, elements', evaluated, evaluated', same⟩ := lengths list member
    rw [ListBinding.sizeFor_of_elements evaluated, ListBinding.sizeFor_of_elements evaluated', same]
  rw [Recipe.layout_of_apply applied, Recipe.layout_of_apply applied', Recipe.layout_congr sizes]

/-- A recipe has a fixed text exactly when there is no list in what has been written. -/
theorem Draft.Booked.isFixed_finish_iff {draft : Draft} (booked : draft.Booked) :
    draft.finish.isFixed = true ↔ draft.finish.lists = [] := by
  cases listed : draft.flush.hasList with
  | false =>
    rw [Draft.finish_of_no_list listed]
    exact ⟨fun _ => rfl, fun _ => rfl⟩
  | true =>
    have held : ∃ step ∈ draft.flush.steps, step.isList = true := by
      rw [booked.flush.hasList] at listed
      exact List.any_eq_true.1 listed
    obtain ⟨step, member, isList⟩ := held
    rw [Draft.finish_of_hasList listed, Recipe.isFixed, Recipe.lists,
      List.filterMap_eq_nil_iff]
    constructor
    · intro fixed
      cases fixed
    · intro noLists
      cases step with
      | list binding => cases noLists _ member
      | _ => cases isList

/-- The values of inputs show neither in the text of the command of a query nor in the names of its
parameters. Only the lengths of collections do, and only where the text is not fixed, which is where
the query binds a collection. -/
theorem Select.layout_eq_of_lower {dialect : Dialect} {indentWidth : Nat} {select : Select}
    {lowered : Lowered} (lowers : select.lower dialect indentWidth = .ok lowered) :
    (lowered.recipe.isFixed = true ↔ lowered.recipe.lists = []) ∧
    ∀ {start command command' : Command} {inputs inputs' : Inputs},
      lowered.recipe.apply start inputs = .ok command →
      lowered.recipe.apply start inputs' = .ok command' →
      (lowered.recipe.isFixed = false → ∀ list ∈ lowered.recipe.lists,
        ∃ elements elements', list.elements inputs = .ok elements ∧
          list.elements inputs' = .ok elements' ∧ elements.length = elements'.length) →
      command.text = command'.text ∧
        command.parameters.map (·.name) = command'.parameters.map (·.name) := by
  have fixed : lowered.recipe.isFixed = true ↔ lowered.recipe.lists = [] := by
    obtain ⟨script, -, recipe⟩ := Select.recipe_of_lower lowers
    rw [recipe, Script.recipe]
    exact (script.booked_run dialect indentWidth).isFixed_finish_iff
  refine ⟨fixed, ?_⟩
  intro start command command' inputs inputs' applied applied' lengths
  have layouts : command.layout = command'.layout := by
    refine Recipe.layout_eq_of_apply applied applied' fun list member => ?_
    refine lengths (Bool.eq_false_iff.2 fun text => ?_) list member
    -- A fixed text has no lists, so nothing is asked of lengths.
    rw [fixed.1 text] at member
    cases member
  exact ⟨congrArg Layout.text layouts, congrArg Layout.names layouts⟩

/-- The customers of a name among some. -/
def Select.namedAmong : Select where
  projection := .server (.column ⟨0⟩ "Id" .int32)
  table := some (.base ⟨0⟩ "" "Customers" "c")
  predicate := some (.binary .and
    (.isIn (.column ⟨0⟩ "Id" .int32) (.dynamic (.input "ids" (.collection .int32))))
    (.binary .equal (.column ⟨0⟩ "Name" .string) (.input "name" .string)))
  grouping := none
  ordering := none
  offset := none
  limit := none
  distinct := false

/-- Two lists of two identities, and a name or an attempt to end the query: the text is the same. -/
theorem Select.layout_namedAmong :
    let inputs : Inputs :=
      NameMap.ofList [("ids", .array [.int 1, .int 2]), ("name", .string "Ada")]
    let inputs' : Inputs :=
      NameMap.ofList [("ids", .array [.int 30, .null]), ("name", .string "x' OR 1 = 1 --")]
    ∃ lowered command command', Select.namedAmong.lower .sqlServer 4 = .ok lowered ∧
      lowered.recipe.isFixed = false ∧
      lowered.recipe.apply .empty inputs = .ok command ∧
      lowered.recipe.apply .empty inputs' = .ok command' ∧
      command.parameters.map (·.name) = ["p0_0", "p0_1", "p1"] ∧
      command.text = command'.text ∧
      command.parameters.map (·.name) = command'.parameters.map (·.name) := by
  intro inputs inputs'
  have independent : ∀ lowered command command',
      Select.namedAmong.lower .sqlServer 4 = .ok lowered →
      lowered.recipe.apply .empty inputs = .ok command →
      lowered.recipe.apply .empty inputs' = .ok command' →
      lowered.recipe.lists.map (·.source) = [.input "ids" (.collection .int32)] →
      command.text = command'.text ∧
        command.parameters.map (·.name) = command'.parameters.map (·.name) := by
    intro lowered command command' lowers applied applied' sources
    refine (Select.layout_eq_of_lower lowers).2 applied applied' fun _ list member => ?_
    have source : list.source = .input "ids" (.collection .int32) := by
      have mapped := List.mem_map_of_mem (f := (·.source)) member
      rw [sources] at mapped
      exact List.mem_singleton.1 mapped
    refine ⟨[.int 1, .int 2], [.int 30, .null], ?_, ?_, rfl⟩
    · rw [ListBinding.elements, source]
      rfl
    · rw [ListBinding.elements, source]
      rfl
  exact ⟨_, _, _, rfl, rfl, rfl, rfl, rfl, independent _ _ _ rfl rfl rfl rfl⟩

end SqlLowering
