import SqlLowering.Proofs.Placeholders

/-!
# Indentation is pure layout

A draft writes blanks only behind line breaks, as many as its width and its level ask for, and
nothing else depends on its width. `unindented` drops the blanks at the beginnings of lines. Two
drafts of different widths that get the same edits have texts that differ in those blanks only
(`Draft.SameLayout`), segment by segment, so they close their segments at the same places.
-/

namespace SqlLowering

/-! ## Blanks at the beginnings of lines -/

/-- Whether the text is at the beginning of a line after one more character, blanks apart. -/
def staysAtBreak (atBreak : Bool) (c : Char) : Bool :=
  c == '\n' || (atBreak && c == ' ')

/-- Whether the text is at the beginning of a line after some characters, blanks apart. -/
def endsAtBreak (atBreak : Bool) (chars : List Char) : Bool :=
  chars.foldl staysAtBreak atBreak

/-- Characters without the blanks at the beginnings of lines; `atBreak` says whether they start
there. -/
def dropIndent : Bool → List Char → List Char
  | _, [] => []
  | atBreak, c :: rest =>
    if atBreak && c == ' ' then dropIndent true rest
    else c :: dropIndent (c == '\n') rest

/-- A text without the blanks that directly follow a line break. -/
def unindented (text : String) : String :=
  String.ofList (dropIndent false text.toList)

/-- Dropping the blanks at the beginnings of lines goes on over the border of two texts. -/
theorem dropIndent_append (atBreak : Bool) (first second : List Char) :
    dropIndent atBreak (first ++ second) =
      dropIndent atBreak first ++ dropIndent (endsAtBreak atBreak first) second := by
  induction first generalizing atBreak with
  | nil => rfl
  | cons c rest ih =>
    have next : endsAtBreak atBreak (c :: rest) = endsAtBreak (staysAtBreak atBreak c) rest := rfl
    rw [List.cons_append, dropIndent, dropIndent, next]
    cases blank : atBreak && c == ' ' with
    | true =>
      have stays : staysAtBreak atBreak c = true := by rw [staysAtBreak, blank, Bool.or_true]
      rw [if_pos rfl, if_pos rfl, stays, ih]
    | false =>
      have stays : staysAtBreak atBreak c = (c == '\n') := by
        rw [staysAtBreak, blank, Bool.or_false]
      rw [if_neg Bool.false_ne_true, if_neg Bool.false_ne_true, stays, ih, List.cons_append]

theorem endsAtBreak_append (atBreak : Bool) (first second : List Char) :
    endsAtBreak atBreak (first ++ second) = endsAtBreak (endsAtBreak atBreak first) second :=
  List.foldl_append

theorem dropIndent_blanks (count : Nat) : dropIndent true (List.replicate count ' ') = [] := by
  induction count with
  | zero => rfl
  | succ count ih => exact ih

theorem endsAtBreak_blanks (count : Nat) :
    endsAtBreak true (List.replicate count ' ') = true := by
  induction count with
  | zero => rfl
  | succ count ih => exact ih

/-- Two texts differ in the blanks at the beginnings of lines only, wherever they start and whatever
comes after them. -/
def SameButIndent (text other : String) : Prop :=
  ∀ atBreak, dropIndent atBreak text.toList = dropIndent atBreak other.toList ∧
    endsAtBreak atBreak text.toList = endsAtBreak atBreak other.toList

namespace SameButIndent

variable {text other more more' : String}

theorem refl (text : String) : SameButIndent text text :=
  fun _ => ⟨rfl, rfl⟩

theorem append (first : SameButIndent text other) (second : SameButIndent more more') :
    SameButIndent (text ++ more) (other ++ more') := by
  intro atBreak
  obtain ⟨dropped, ends⟩ := first atBreak
  obtain ⟨dropped', ends'⟩ := second (endsAtBreak atBreak other.toList)
  rw [String.toList_append, String.toList_append, dropIndent_append, dropIndent_append,
    endsAtBreak_append, endsAtBreak_append, dropped, ends, dropped', ends']
  exact ⟨rfl, rfl⟩

theorem unindented_eq (same : SameButIndent text other) : unindented text = unindented other := by
  rw [unindented, unindented, (same false).1]

/-- Line breaks with different numbers of blanks behind them. -/
theorem lineBreak (count count' : Nat) :
    SameButIndent ("\n" ++ String.ofList (List.replicate count ' '))
      ("\n" ++ String.ofList (List.replicate count' ' ')) := by
  have chars : ∀ n, ("\n" ++ String.ofList (List.replicate n ' ')).toList =
      ['\n'] ++ List.replicate n ' ' := by simp
  intro atBreak
  have ends : endsAtBreak atBreak ['\n'] = true := rfl
  rw [chars, chars, dropIndent_append, dropIndent_append, endsAtBreak_append, endsAtBreak_append,
    ends, dropIndent_blanks, dropIndent_blanks, endsAtBreak_blanks, endsAtBreak_blanks]
  exact ⟨rfl, rfl⟩

example : unindented " a\n  b  c\n\n d" = " a\nb  c\n\nd" ∧
    unindented " a\n    b  c\n\n   d" = " a\nb  c\n\nd" := by decide

theorem isEmpty_of_isEmpty (same : SameButIndent text other) (empty : text.isEmpty = true) :
    other.isEmpty = true := by
  rw [String.isEmpty_iff] at empty ⊢
  subst empty
  have dropped := (same false).1
  -- A first character is kept, since the text does not start behind a line break.
  cases chars : other.toList with
  | nil => exact String.toList_eq_nil_iff.1 chars
  | cons c rest =>
    rw [chars] at dropped
    cases dropped

theorem symm (same : SameButIndent text other) : SameButIndent other text :=
  fun atBreak => ⟨(same atBreak).1.symm, (same atBreak).2.symm⟩

theorem isEmpty_eq (same : SameButIndent text other) : text.isEmpty = other.isEmpty :=
  Bool.eq_iff_iff.2 ⟨same.isEmpty_of_isEmpty, same.symm.isEmpty_of_isEmpty⟩

end SameButIndent

/-! ## Recipes without indentation -/

/-- A step without the indentation of its text. -/
def Step.unindented : Step → Step
  | .text sql => .text (SqlLowering.unindented sql)
  | .parameter binding => .parameter binding
  | .list binding => .list binding

/-- A recipe without the indentation of its texts. -/
def Recipe.unindented : Recipe → Recipe
  | .fixed text parameters => .fixed (SqlLowering.unindented text) parameters
  | .stepwise steps => .stepwise (steps.map Step.unindented)

/-! ## Two drafts of the same edits -/

namespace Draft

/-- Two drafts differ in their widths and in the indentation of their texts only. -/
structure SameLayout (draft other : Draft) : Prop where
  indent : draft.indent = other.indent
  nextParameter : draft.nextParameter = other.nextParameter
  segment : SameButIndent draft.segment other.segment
  closed : SameButIndent draft.closed other.closed
  steps : draft.steps.map Step.unindented = other.steps.map Step.unindented
  parameters : draft.parameters = other.parameters
  hasList : draft.hasList = other.hasList

namespace SameLayout

variable {draft other : Draft}

theorem start (width width' : Nat) : SameLayout (Draft.start width) (Draft.start width') :=
  ⟨rfl, rfl, .refl _, .refl _, rfl, rfl, rfl⟩

theorem append (same : draft.SameLayout other) {text text' : String}
    (appended : SameButIndent text text') : (draft.append text).SameLayout (other.append text') :=
  { same with segment := same.segment.append appended }

/-- Segments are closed at the same places. -/
theorem flush (same : draft.SameLayout other) : draft.flush.SameLayout other.flush := by
  have empty := same.segment.isEmpty_eq
  unfold Draft.flush
  cases closes : other.segment.isEmpty with
  | true =>
    rw [if_pos (empty.trans closes), if_pos rfl]
    exact same
  | false =>
    rw [closes] at empty
    rw [if_neg (by rw [empty]; exact Bool.false_ne_true), if_neg Bool.false_ne_true]
    refine { same with
      segment := .refl _
      closed := same.closed.append same.segment
      steps := ?_ }
    rw [List.map_append, List.map_append, same.steps]
    simp [Step.unindented, same.segment.unindented_eq]

theorem nextName (same : draft.SameLayout other) : draft.nextName = other.nextName := by
  rw [Draft.nextName, Draft.nextName, same.nextParameter]

/-- An edit does the same to both. -/
theorem step (same : draft.SameLayout other) (dialect : Dialect) (edit : Edit) :
    (draft.step dialect edit).SameLayout (other.step dialect edit) := by
  cases edit with
  | append sql => exact same.append (.refl sql)
  | newline => exact same.append (.lineBreak _ _)
  | indent => exact { same with indent := congrArg (· + 1) same.indent }
  | dedent => exact { same with indent := congrArg (· - 1) same.indent }
  | parameter value =>
    have flushed := (same.append (.refl (dialect.placeholder other.nextName))).flush
    rw [Draft.step, Draft.step, Draft.parameter, Draft.parameter, same.nextName]
    exact { flushed with
      nextParameter := congrArg (· + 1) same.nextParameter
      steps := by rw [List.map_append, List.map_append, flushed.steps]
      parameters := by rw [flushed.parameters] }
  | list source =>
    have flushed := same.flush
    rw [Draft.step, Draft.step, Draft.list, Draft.list, same.nextName]
    exact { flushed with
      nextParameter := congrArg (· + 1) same.nextParameter
      steps := by rw [List.map_append, List.map_append, flushed.steps]
      hasList := rfl }

theorem run (same : draft.SameLayout other) (dialect : Dialect) (edits : List Edit) :
    (draft.run dialect edits).SameLayout (other.run dialect edits) := by
  induction edits generalizing draft other with
  | nil => exact same
  | cons edit rest ih =>
    rw [run_cons, run_cons]
    exact ih (same.step dialect edit)

/-- Both end in recipes of the same mode with the same bindings. -/
theorem finish (same : draft.SameLayout other) :
    draft.finish.unindented = other.finish.unindented := by
  have flushed := same.flush
  cases listed : other.flush.hasList with
  | true =>
    rw [finish_of_hasList listed, finish_of_hasList (flushed.hasList.trans listed),
      Recipe.unindented, Recipe.unindented, flushed.steps]
  | false =>
    rw [finish_of_no_list listed, finish_of_no_list (flushed.hasList.trans listed),
      Recipe.unindented, Recipe.unindented, flushed.closed.unindented_eq, flushed.parameters]

end SameLayout

end Draft

/-- The recipes of a script differ in the indentation of their texts only. -/
theorem Script.unindented_recipe (dialect : Dialect) (width width' : Nat) (script : Script) :
    (script.recipe dialect width).unindented = (script.recipe dialect width').unindented := by
  rw [Script.recipe, Script.recipe, Script.draft_run, Script.draft_run]
  exact ((Draft.SameLayout.start width width').run dialect _).finish

/-- Indentation is pure layout. With another number of blanks to a level, a query fails with the
same error, or it has the same columns, the same plan and a recipe that differs in the blanks behind
line breaks only: of the same mode, with the same bindings in the same order, and with the same
texts step by step. -/
theorem Select.lower_unindented (dialect : Dialect) (width width' : Nat) (select : Select) :
    (∃ error, select.lower dialect width = .error error ∧
        select.lower dialect width' = .error error) ∨
      ∃ lowered lowered', select.lower dialect width = .ok lowered ∧
        select.lower dialect width' = .ok lowered' ∧
        lowered.columns = lowered'.columns ∧ lowered.plan = lowered'.plan ∧
        lowered.recipe.unindented = lowered'.recipe.unindented := by
  unfold Select.lower
  cases select.script dialect with
  | error error => exact .inl ⟨error, rfl, rfl⟩
  | ok script =>
    cases select.projection.flatten with
    | error error => exact .inl ⟨error, rfl, rfl⟩
    | ok flattened =>
      exact .inr ⟨_, _, rfl, rfl, rfl, rfl, script.unindented_recipe dialect width width'⟩

end SqlLowering
