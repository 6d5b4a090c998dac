import SqlLowering.Lowering.Basic
import SqlLowering.Proofs.DraftReading

/-!
# Placeholders stand for the bound parameters

The text of a command is literal text with placeholders in it, one for each bound parameter and in
the same order, and no two parameters have the same name. Numbers are shared by parameters and
lists: `p1` is a parameter, `p1_0` is the first element of a list, and `p10` is a later parameter. A
name gives back the number and the element (`parameterName_inj`), and the numbers of a reading go
up, so names never meet.

A script becomes plain edits once its tables have their aliases (`Script.edits`), which reduces
queries to the reading of drafts.
-/

namespace SqlLowering

/-! ## Names of parameters -/

/-- The name of the parameter of a number, or of an element of the list of that number. -/
def parameterName (number : Nat) : Option Nat → String
  | none => "p" ++ toString number
  | some element => "p" ++ toString number ++ "_" ++ toString element

/-- What stands behind the number in a name. -/
def elementMark : Option Nat → List Char
  | none => []
  | some element => '_' :: Nat.toDigits 10 element

theorem toList_parameterName (number : Nat) (element : Option Nat) :
    (parameterName number element).toList =
      'p' :: (Nat.toDigits 10 number ++ elementMark element) := by
  cases element <;> simp [parameterName, elementMark, String.toList_append]

theorem toDigits_inj {m n : Nat} (same : Nat.toDigits 10 m = Nat.toDigits 10 n) : m = n := by
  have values := congrArg (fun digits => Nat.ofDigitChars 10 digits 0) same
  simpa using values

/-- The digits of a number end where the mark of an element begins. -/
theorem takeWhile_toDigits (number : Nat) (element : Option Nat) :
    (Nat.toDigits 10 number ++ elementMark element).takeWhile (· ≠ '_') =
      Nat.toDigits 10 number := by
  have digits : ∀ c ∈ Nat.toDigits 10 number, decide (c ≠ '_') = true := by
    intro c member
    rw [decide_eq_true_eq]
    rintro rfl
    exact Nat.underscore_not_in_toDigits member
  rw [List.takeWhile_append_of_pos digits]
  cases element <;> simp [elementMark]

/-- A name gives back its number and its element. -/
theorem parameterName_inj {m n : Nat} {i j : Option Nat}
    (same : parameterName m i = parameterName n j) : m = n ∧ i = j := by
  have chars := congrArg String.toList same
  rw [toList_parameterName, toList_parameterName, List.cons.injEq] at chars
  -- No digit is an underscore, so the number is what stands in front of the first one.
  have digits := congrArg (List.takeWhile (· ≠ '_')) chars.2
  rw [takeWhile_toDigits, takeWhile_toDigits] at digits
  have number := toDigits_inj digits
  subst number
  have marks := List.append_cancel_left chars.2
  refine ⟨rfl, ?_⟩
  cases i <;> cases j <;> simp only [elementMark, List.cons.injEq, reduceCtorEq] at marks
  · rfl
  · rw [toDigits_inj marks.2]

/-! ## Names in a reading -/

/-- The names of the parameters that marks bind. -/
def Mark.names (marks : List Mark) : List String :=
  (marks.filterMap Mark.parameter?).map (·.name)

@[simp]
theorem Mark.names_append (first second : List Mark) :
    Mark.names (first ++ second) = Mark.names first ++ Mark.names second := by
  simp [Mark.names]

theorem Mark.names_ofElements (dialect : Dialect) (name : String) (items : List Value) :
    Mark.names (Mark.ofElements dialect name items) =
      (List.range items.length).map (name ++ toString ·) := by
  have command := Mark.command_ofElements dialect
    ⟨name, dialect.placeholder name, dialect.emptyList, .constant .null .bool⟩ items rfl rfl
  have parameters := congrArg Command.parameters command
  simp only [Mark.command] at parameters
  rw [Mark.names, parameters, ListBinding.map_name_parameters]

/-- Names of different parameters and elements, with numbers from `lowest` on. -/
def NumberedFrom (lowest : Nat) (names : List String) : Prop :=
  ∃ keys : List (Nat × Option Nat), names = keys.map (fun key => parameterName key.1 key.2) ∧
    keys.Nodup ∧ ∀ key ∈ keys, lowest ≤ key.1

theorem NumberedFrom.nodup {lowest : Nat} {names : List String}
    (numbered : NumberedFrom lowest names) : names.Nodup := by
  obtain ⟨keys, rfl, distinct, -⟩ := numbered
  refine List.Pairwise.map _ ?_ distinct
  rintro ⟨m, i⟩ ⟨n, j⟩ different same
  obtain ⟨rfl, rfl⟩ := parameterName_inj same
  exact different rfl

/-- The names of one number in front of names of higher numbers. -/
theorem NumberedFrom.append {number : Nat} {names : List String}
    (later : NumberedFrom (number + 1) names) {elements : List (Option Nat)}
    (distinct : elements.Nodup) :
    NumberedFrom number (elements.map (parameterName number) ++ names) := by
  obtain ⟨keys, rfl, keysDistinct, higher⟩ := later
  refine ⟨elements.map (number, ·) ++ keys, ?_, ?_, ?_⟩
  · simp [Function.comp_def]
  · rw [List.nodup_append]
    refine ⟨List.Pairwise.map _ (fun _ _ different same => different (Prod.ext_iff.1 same).2)
      distinct, keysDistinct, ?_⟩
    intro first inFirst second inKeys same
    obtain ⟨element, -, rfl⟩ := List.mem_map.1 inFirst
    have above := higher second inKeys
    rw [← same] at above
    exact Nat.not_succ_le_self number above
  · intro key member
    rcases List.mem_append.1 member with inFirst | inKeys
    · obtain ⟨element, -, rfl⟩ := List.mem_map.1 inFirst
      exact Nat.le_refl number
    · exact Nat.le_of_succ_le (higher key inKeys)

namespace Draft

/-- The names of the elements of a list, in front of names of higher numbers. -/
theorem Edit.numbered_elements (dialect : Dialect) (place : Place) (items : List Value)
    {names : List String} (later : NumberedFrom (place.number + 1) names) :
    NumberedFrom place.number
      (Mark.names (Mark.ofElements dialect (place.name ++ "_") items) ++ names) := by
  have distinct : ((List.range items.length).map some).Nodup :=
    List.Pairwise.map _ (fun _ _ different same => different (Option.some.inj same))
      List.nodup_range
  have numbered := later.append distinct
  rw [List.map_map] at numbered
  rw [Mark.names_ofElements]
  exact numbered

/-- The names of an edit have the number of its place, and names that follow have higher ones. -/
theorem Edit.numbered_marks {dialect : Dialect} {indentWidth : Nat} {inputs : Inputs}
    {place : Place} {edit : Edit} {marks : List Mark}
    (read : edit.marks dialect indentWidth inputs place = .ok marks) {names : List String}
    (later : NumberedFrom (edit.next place).number names) :
    NumberedFrom place.number (Mark.names marks ++ names) := by
  -- Only a parameter and a list take a number, and they take one each.
  cases edit with
  | append sql =>
    cases read
    exact later
  | newline =>
    cases read
    exact later
  | indent =>
    cases read
    exact later
  | dedent =>
    cases read
    exact later
  | parameter value =>
    obtain ⟨v, rfl⟩ := Edit.marks_parameter read
    exact later.append (List.pairwise_singleton _ none)
  | list source =>
    obtain ⟨items, rfl⟩ := Edit.marks_list read
    exact Edit.numbered_elements dialect place items later

/-- No two parameters of a reading have the same name. -/
theorem Edit.numbered_readAll {dialect : Dialect} {indentWidth : Nat} {inputs : Inputs}
    {place : Place} {edits : List Edit} {marks : List Mark}
    (read : Edit.readAll dialect indentWidth inputs place edits = .ok marks) :
    NumberedFrom place.number (Mark.names marks) := by
  induction edits generalizing place marks with
  | nil =>
    cases read
    exact ⟨[], rfl, List.nodup_nil, by simp⟩
  | cons edit rest ih =>
    rw [Edit.readAll] at read
    simp only [Except.bind_eq_ok, Except.pure_eq_ok] at read
    obtain ⟨first, readFirst, others, readOthers, rfl⟩ := read
    rw [Mark.names_append]
    exact Edit.numbered_marks readFirst (ih readOthers)

end Draft

/-! ## Literal text and placeholders -/

/-- Text that is put together from parts of some kind. -/
inductive Composed (part : String → Prop) : String → Prop
  | empty : Composed part ""
  | append {first rest : String} : part first → Composed part rest → Composed part (first ++ rest)

/-- A text, and behind it placeholders, each with the text that follows it. -/
def interleaved (placeholder : String → String) (first : String)
    (named : List (String × String)) : String :=
  first ++ String.join (named.map fun (name, text) => placeholder name ++ text)

namespace Draft

/-- The literal texts of an edit: appended text, a line break with blanks, and for a collection what
separates its elements or stands for none. -/
def Edit.Emits (dialect : Dialect) (indentWidth : Nat) (text : String) : Edit → Prop
  | .append sql => text = sql
  | .newline =>
    ∃ level, text = "\n" ++ String.ofList (List.replicate (level * indentWidth) ' ')
  | .list _ => text = ", " ∨ text = dialect.emptyList
  | .indent | .dedent | .parameter _ => False

end Draft

namespace Mark

/-- A mark of edits: their literal text, or a placeholder that shows the name of its parameter. -/
def IsOf (dialect : Dialect) (indentWidth : Nat) (edits : List Draft.Edit) : Mark → Prop
  | .literal text => ∃ edit ∈ edits, edit.Emits dialect indentWidth text
  | .placeholder shown parameter => shown = dialect.placeholder parameter.name

theorem IsOf.mono {dialect : Dialect} {indentWidth : Nat} {edits more : List Draft.Edit}
    {mark : Mark} (isOf : mark.IsOf dialect indentWidth edits) (kept : edits ⊆ more) :
    mark.IsOf dialect indentWidth more := by
  cases mark with
  | literal text =>
    obtain ⟨edit, member, emits⟩ := isOf
    exact ⟨edit, kept member, emits⟩
  | placeholder shown parameter => exact isOf

/-- Marks, read as text, are literal text with the placeholders of their names in it. -/
theorem exists_interleaved {dialect : Dialect} {indentWidth : Nat} {edits : List Draft.Edit}
    {marks : List Mark} (areOf : ∀ mark ∈ marks, mark.IsOf dialect indentWidth edits) :
    ∃ first named, String.join (marks.map text) = interleaved dialect.placeholder first named ∧
      named.map Prod.fst = names marks ∧
      ∀ text ∈ first :: named.map Prod.snd,
        Composed (fun part => ∃ edit ∈ edits, edit.Emits dialect indentWidth part) text := by
  induction marks with
  | nil =>
    refine ⟨"", [], by simp [interleaved], rfl, ?_⟩
    intro text member
    rw [List.mem_singleton.1 member]
    exact .empty
  | cons mark rest ih =>
    obtain ⟨first, named, joined, same, composed⟩ :=
      ih fun mark member => areOf mark (List.mem_cons_of_mem _ member)
    have isOf := areOf mark List.mem_cons_self
    cases mark with
    | literal text =>
      refine ⟨text ++ first, named, ?_, same, ?_⟩
      · simp [joined, interleaved, Mark.text, String.append_assoc]
      · intro text' member
        rcases List.mem_cons.1 member with rfl | later
        · exact .append isOf (composed first List.mem_cons_self)
        · exact composed text' (List.mem_cons_of_mem _ later)
    | placeholder shown parameter =>
      refine ⟨"", (parameter.name, first) :: named, ?_, ?_, ?_⟩
      · have shownAs : shown = dialect.placeholder parameter.name := isOf
        simp [joined, interleaved, Mark.text, shownAs, String.append_assoc]
      · rw [List.map_cons, same]
        rfl
      · intro text' member
        rcases List.mem_cons.1 member with rfl | later
        · exact .empty
        · exact composed text' later

theorem eq_or_mem_of_mem_intersperse {mark separator : Mark} {marks : List Mark}
    (member : mark ∈ marks.intersperse separator) : mark = separator ∨ mark ∈ marks := by
  induction marks with
  | nil => cases member
  | cons first rest ih =>
    cases rest with
    | nil => exact .inr member
    | cons second others =>
      rcases List.mem_cons.1 member with rfl | member
      · exact .inr List.mem_cons_self
      · rcases List.mem_cons.1 member with rfl | member
        · exact .inl rfl
        · exact (ih member).imp_right (List.mem_cons_of_mem _)

/-- The marks of a collection under a name, where placeholders are names with a sign in front. -/
theorem isOf_ofElements {dialect : Dialect} {sign : String}
    (signed : ∀ name, dialect.placeholder name = sign ++ name) (indentWidth : Nat) (name : String)
    (items : List Value) (source : Expr) :
    ∀ mark ∈ ofElements dialect name items,
      mark.IsOf dialect indentWidth [.list source] := by
  intro mark member
  cases items with
  | nil =>
    rw [List.mem_singleton.1 member]
    exact ⟨.list source, List.mem_cons_self, .inr rfl⟩
  | cons item rest =>
    rcases eq_or_mem_of_mem_intersperse member with rfl | member
    · exact ⟨.list source, List.mem_cons_self, .inl rfl⟩
    · obtain ⟨element, -, rfl⟩ := List.mem_map.1 member
      change dialect.placeholder name ++ _ = dialect.placeholder (name ++ _)
      rw [signed, signed, String.append_assoc]

end Mark

namespace Draft

variable {dialect : Dialect} {sign : String}

/-- The marks of an edit are its text, or placeholders that show the names of their parameters. -/
theorem Edit.isOf_marks (signed : ∀ name, dialect.placeholder name = sign ++ name)
    {indentWidth : Nat} {inputs : Inputs} {place : Place} {edit : Edit} {marks : List Mark}
    (read : edit.marks dialect indentWidth inputs place = .ok marks) :
    ∀ mark ∈ marks, mark.IsOf dialect indentWidth [edit] := by
  cases edit with
  | append sql =>
    cases read
    intro mark member
    rw [List.mem_singleton.1 member]
    exact ⟨.append sql, List.mem_cons_self, rfl⟩
  | newline =>
    cases read
    intro mark member
    rw [List.mem_singleton.1 member]
    exact ⟨.newline, List.mem_cons_self, place.level, rfl⟩
  | indent =>
    cases read
    simp
  | dedent =>
    cases read
    simp
  | parameter value =>
    obtain ⟨v, rfl⟩ := Edit.marks_parameter read
    intro mark member
    rw [List.mem_singleton.1 member]
    rfl
  | list source =>
    obtain ⟨items, rfl⟩ := Edit.marks_list read
    exact Mark.isOf_ofElements signed indentWidth _ items source

/-- Every mark of a reading is literal text of the edits, or a placeholder that shows its name. -/
theorem Edit.isOf_readAll (signed : ∀ name, dialect.placeholder name = sign ++ name)
    {indentWidth : Nat} {inputs : Inputs} {place : Place} {edits : List Edit} {marks : List Mark}
    (read : Edit.readAll dialect indentWidth inputs place edits = .ok marks) :
    ∀ mark ∈ marks, mark.IsOf dialect indentWidth edits := by
  induction edits generalizing place marks with
  | nil =>
    cases read
    simp
  | cons edit rest ih =>
    rw [Edit.readAll] at read
    simp only [Except.bind_eq_ok, Except.pure_eq_ok] at read
    obtain ⟨first, readFirst, others, readOthers, rfl⟩ := read
    intro mark member
    rcases List.mem_append.1 member with inFirst | inOthers
    · exact (Edit.isOf_marks signed readFirst mark inFirst).mono (by simp)
    · exact (ih readOthers mark inOthers).mono (by simp)

end Draft

/-! ## Base names in the order of the steps -/

/-- The name of a parameter, or the name of a list without the mark of its elements. -/
def Step.baseName? : Step → Option String
  | .text _ => none
  | .parameter binding => some binding.name
  | .list binding => some (String.ofList binding.namePrefix.toList.dropLast)

/-- The base names of the parameters and lists of a recipe, in order. -/
def Recipe.baseNames : Recipe → List String
  | .fixed _ parameters => parameters.map (·.name)
  | .stepwise steps => steps.filterMap Step.baseName?

/-- Without lists, what is read off the steps is read off their parameters. -/
theorem Step.map_of_no_list {α : Type} (read : Step → Option α) (ofBinding : Binding → α)
    (text : ∀ sql, read (.text sql) = none)
    (parameter : ∀ binding, read (.parameter binding) = some (ofBinding binding))
    {steps : List Step} (no : steps.any isList = false) :
    (steps.filterMap binding?).map ofBinding = steps.filterMap read := by
  induction steps with
  | nil => rfl
  | cons step rest ih =>
    rw [List.any_cons, Bool.or_eq_false_iff] at no
    cases step with
    | text sql => simpa [List.filterMap_cons, binding?, text] using ih no.2
    | parameter binding => simpa [List.filterMap_cons, binding?, parameter] using ih no.2
    | list binding => simp [isList] at no

namespace Draft

theorem filterMap_flush {α : Type} (read : Step → Option α)
    (text : ∀ sql, read (.text sql) = none) (draft : Draft) :
    draft.flush.steps.filterMap read = draft.steps.filterMap read := by
  unfold Draft.flush
  split
  · rfl
  · simp [text]

theorem baseNames_flush (draft : Draft) :
    draft.flush.steps.filterMap Step.baseName? = draft.steps.filterMap Step.baseName? :=
  filterMap_flush Step.baseName? (fun _ => rfl) draft

theorem Booked.baseNames_finish {draft : Draft} (booked : draft.Booked) :
    draft.finish.baseNames = draft.steps.filterMap Step.baseName? := by
  have flushed := booked.flush
  rw [← baseNames_flush]
  cases listed : draft.flush.hasList with
  | true =>
    rw [finish_of_hasList listed]
    rfl
  | false =>
    rw [finish_of_no_list listed]
    rw [flushed.hasList] at listed
    rw [Recipe.baseNames, flushed.parameters]
    exact Step.map_of_no_list Step.baseName? (·.name) (fun _ => rfl) (fun _ => rfl) listed

/-- The steps of a draft bind one number after the other, up to the next number. -/
def Numbered (draft : Draft) : Prop :=
  draft.steps.filterMap Step.baseName? = (List.range draft.nextParameter).map (parameterName · none)

/-- A step behind a closed segment that takes the next number. -/
theorem Numbered.of_steps {draft after : Draft} {step : Step} (numbered : draft.Numbered)
    (steps : after.steps = draft.flush.steps ++ [step])
    (name : step.baseName? = some draft.nextName)
    (next : after.nextParameter = draft.nextParameter + 1) : after.Numbered := by
  have added : [step].filterMap Step.baseName? = [parameterName draft.nextParameter none] := by
    rw [List.filterMap_cons, name]
    rfl
  rw [Numbered, steps, next, List.filterMap_append, baseNames_flush, numbered, added,
    List.range_succ, List.map_append, List.map_singleton]

theorem Numbered.step {draft : Draft} (numbered : draft.Numbered) (dialect : Dialect)
    (edit : Edit) : (draft.step dialect edit).Numbered := by
  cases edit with
  | append sql => exact numbered
  | newline => exact numbered
  | indent => exact numbered
  | dedent => exact numbered
  | parameter value =>
    have written : (draft.append (dialect.placeholder draft.nextName)).Numbered := numbered
    exact written.of_steps rfl rfl rfl
  | list source =>
    refine numbered.of_steps rfl ?_ rfl
    simp [Step.baseName?, String.toList_append]

theorem Numbered.run {draft : Draft} (numbered : draft.Numbered) (dialect : Dialect)
    (edits : List Edit) : (draft.run dialect edits).Numbered :=
  run_invariant (fun edit before => before.step dialect edit) numbered edits

end Draft

/-! ## Scripts as edits -/

/-- The edits of a script, with the aliases of its tables written out. -/
def Script.edits (dialect : Dialect) : TableNames → Script → List Draft.Edit
  | _, [] => []
  | names, .edit e :: rest => e :: edits dialect names rest
  | names, .tableName id preferred :: rest =>
    .append (dialect.quoteIdentifier (names.nameFor id preferred).1) ::
      edits dialect (names.nameFor id preferred).2 rest

/-- A script writes what its edits write. -/
theorem Script.draft_run (dialect : Dialect) (script : Script) (names : TableNames)
    (draft : Draft) :
    (script.run dialect ⟨names, draft⟩).draft = draft.run dialect (script.edits dialect names) := by
  induction script generalizing names draft with
  | nil => rfl
  | cons piece rest ih =>
    cases piece with
    | edit e => exact ih names (draft.step dialect e)
    | tableName id preferred =>
      exact ih (names.nameFor id preferred).2
        (draft.append (dialect.quoteIdentifier (names.nameFor id preferred).1))

/-- The draft of a script records what its steps say. -/
theorem Script.booked_run (dialect : Dialect) (indentWidth : Nat) (script : Script) :
    (script.run dialect ⟨.empty, .start indentWidth⟩).draft.Booked := by
  rw [Script.draft_run]
  exact (Draft.booked_start indentWidth).run dialect _

theorem Select.recipe_of_lower {dialect : Dialect} {indentWidth : Nat} {select : Select}
    {lowered : Lowered} (lowers : select.lower dialect indentWidth = .ok lowered) :
    ∃ script, select.script dialect = .ok script ∧
      lowered.recipe = script.recipe dialect indentWidth := by
  unfold Select.lower at lowers
  simp only [Except.bind_eq_ok] at lowers
  obtain ⟨script, scripted, ⟨columns, plan⟩, -, built⟩ := lowers
  cases built
  exact ⟨script, scripted, rfl⟩

/-- Where placeholders are names with a sign in front, the text of the command of a query is literal
text of the query with the placeholders of the bound parameters in it, in their order. No two
parameters have the same name, and the parameters and lists of the recipe are numbered without
gaps. -/
theorem Select.placeholders_of_lower {dialect : Dialect} {sign : String}
    (signed : ∀ name, dialect.placeholder name = sign ++ name) {indentWidth : Nat}
    {select : Select} {lowered : Lowered}
    (lowers : select.lower dialect indentWidth = .ok lowered) {inputs : Inputs}
    {command : Command} (applied : lowered.recipe.apply .empty inputs = .ok command) :
    ∃ script, select.script dialect = .ok script ∧
      (∃ first named, command.text = interleaved dialect.placeholder first named ∧
        named.map Prod.fst = command.parameters.map (·.name) ∧
        ∀ text ∈ first :: named.map Prod.snd,
          Composed
            (fun part => ∃ edit ∈ script.edits dialect .empty, edit.Emits dialect indentWidth part)
            text) ∧
      (command.parameters.map (·.name)).Nodup ∧
      lowered.recipe.baseNames =
        (List.range (script.run dialect ⟨.empty, .start indentWidth⟩).draft.nextParameter).map
          fun number => "p" ++ toString number := by
  obtain ⟨script, scripted, recipe⟩ := Select.recipe_of_lower lowers
  have draft := script.draft_run dialect .empty (.start indentWidth)
  obtain ⟨built, build, rfl⟩ := Recipe.apply_eq_ok.1 applied
  rw [recipe, Script.recipe, draft, Draft.build_finish_run] at build
  simp only [Except.bind_eq_ok, Except.pure_eq_ok] at build
  obtain ⟨marks, read, rfl⟩ := build
  have areOf := Draft.Edit.isOf_readAll signed read
  obtain ⟨first, named, joined, names, composed⟩ := Mark.exists_interleaved areOf
  refine ⟨script, scripted, ⟨first, named, joined, names, composed⟩, ?_, ?_⟩
  · exact (Draft.Edit.numbered_readAll read).nodup
  · have start : (Draft.start indentWidth).Numbered := rfl
    have numbered := start.run dialect (script.edits dialect .empty)
    have booked := (Draft.booked_start indentWidth).run dialect (script.edits dialect .empty)
    rw [recipe, Script.recipe, draft, booked.baseNames_finish, numbered]
    rfl

/-- The orders of some customers above a total. -/
def Select.ordersAmong : Select where
  projection := .server (.column ⟨0⟩ "Id" .int32)
  table := some (.base ⟨0⟩ "dbo" "Orders" "o")
  predicate := some (.binary .and
    (.binary .greaterThan (.column ⟨0⟩ "Total" .int32) (.input "total" .int32))
    (.isIn (.column ⟨0⟩ "CustomerId" .int32)
      (.dynamic (.input "customers" (.collection .int32)))))
  grouping := none
  ordering := none
  offset := none
  limit := some (.input "limit" .int32)
  distinct := false

/-- Inputs for them: two customers. -/
def Inputs.twoCustomers : Inputs :=
  NameMap.ofList
    [("customers", .array [.int 7, .int 8]), ("limit", .int 5), ("total", .int 100)]

/-- Two parameters and a list of two customers: four placeholders, in the order of the parameters.
-/
theorem Select.placeholders_ordersAmong :
    ∃ lowered command, Select.ordersAmong.lower .sqlServer 4 = .ok lowered ∧
      lowered.recipe.apply .empty .twoCustomers = .ok command ∧
      command.parameters.map (·.name) = ["p0", "p1", "p2_0", "p2_1"] ∧
      lowered.recipe.baseNames = ["p0", "p1", "p2"] ∧
      ∃ first named, command.text = interleaved Dialect.sqlServer.placeholder first named ∧
        named.map Prod.fst = ["p0", "p1", "p2_0", "p2_1"] := by
  have split : ∀ lowered command, Select.ordersAmong.lower .sqlServer 4 = .ok lowered →
      lowered.recipe.apply .empty .twoCustomers = .ok command →
      ∃ first named, command.text = interleaved Dialect.sqlServer.placeholder first named ∧
        named.map Prod.fst = command.parameters.map (·.name) := by
    intro lowered command lowers applied
    obtain ⟨-, -, ⟨first, named, text, names, -⟩, -⟩ :=
      Select.placeholders_of_lower (fun _ => rfl) lowers applied
    exact ⟨first, named, text, names⟩
  exact ⟨_, _, rfl, rfl, rfl, rfl, split _ _ rfl rfl⟩

end SqlLowering
