import SqlLowering.Proofs.ClauseForms
import SqlLowering.Proofs.QuotedText

/-!
# Dashes along a form

The text of a recipe is what its script adds piece by piece (`Script.written_recipe`). A form is
read from the left by following whether the text so far ends in a dash: `Form.Flows` says that the
pieces fit together, and that no node that may begin with a minus stands behind a dash. The forms
of clauses and of selects do.
-/

namespace SqlLowering

/-! ## The text that a script adds -/

/-- The text that a piece adds. -/
def Piece.added (dialect : Dialect) (state : Script.State) : Piece → String
  | .edit (.append sql) => sql
  | .edit .newline => state.draft.lineBreak
  | .edit (.parameter _) => dialect.placeholder state.draft.nextName
  | .edit _ => ""
  | .tableName id preferred => dialect.quoteIdentifier (state.names.nameFor id preferred).1

namespace Script

/-- The text that a script adds. -/
def added (dialect : Dialect) : State → Script → String
  | _, [] => ""
  | state, piece :: rest =>
    piece.added dialect state ++ added dialect (state.step dialect piece) rest

theorem added_append (dialect : Dialect) (state : State) (first second : Script) :
    added dialect state (first ++ second) =
      added dialect state first ++ added dialect (first.run dialect state) second := by
  induction first generalizing state with
  | nil => rw [added, String.empty_append]; rfl
  | cons piece rest ih =>
    rw [List.cons_append, added, added, ih, String.append_assoc]
    rfl

end Script

theorem Draft.written_flush (draft : Draft) : draft.flush.written = draft.written := by
  unfold Draft.flush
  split
  · rfl
  · rw [Draft.written, String.append_empty]
    rfl

/-- One piece adds its text behind what is written, and changes nothing in front of it. -/
theorem Script.State.written_step (dialect : Dialect) (state : Script.State) (piece : Piece) :
    (state.step dialect piece).draft.written =
      state.draft.written ++ piece.added dialect state := by
  cases piece with
  | edit e =>
    cases e with
    | append sql => exact Draft.written_append state.draft sql
    | newline => exact Draft.written_append state.draft _
    | indent | dedent => exact (String.append_empty).symm
    | parameter value =>
      have flushed := Draft.written_flush
        (state.draft.append (dialect.placeholder state.draft.nextName))
      exact flushed.trans (Draft.written_append state.draft _)
    | list source => exact (Draft.written_flush state.draft).trans String.append_empty.symm
  | tableName id preferred => exact Draft.written_append state.draft _

theorem Script.written_run (dialect : Dialect) (state : Script.State) (script : Script) :
    (script.run dialect state).draft.written =
      state.draft.written ++ script.added dialect state := by
  induction script generalizing state with
  | nil => exact String.append_empty.symm
  | cons piece rest ih =>
    rw [Script.added, ← String.append_assoc, ← Script.State.written_step]
    exact ih (state.step dialect piece)

/-- The text of a recipe: its texts in order, without the lists between them. -/
def Recipe.written : Recipe → String
  | .fixed text _ => text
  | .stepwise steps => String.join (steps.filterMap Step.text?)

theorem Draft.Booked.written_finish {draft : Draft} (booked : draft.Booked) :
    draft.finish.written = draft.written := by
  have flushed := Draft.written_flush draft
  rw [Draft.written, Draft.segment_flush, String.append_empty] at flushed
  rw [← flushed]
  cases listed : draft.flush.hasList with
  | true =>
    rw [Draft.finish_of_hasList listed, Recipe.written, booked.flush.closed]
  | false => rw [Draft.finish_of_no_list listed, Recipe.written]

/-- The text of the recipe of a script is what the script adds. -/
theorem Script.written_recipe (dialect : Dialect) (indentWidth : Nat) (script : Script) :
    (script.recipe dialect indentWidth).written =
      script.added dialect ⟨.empty, .start indentWidth⟩ := by
  have booked := script.booked_run dialect indentWidth
  rw [Script.recipe, booked.written_finish, Script.written_run]
  exact String.empty_append

/-! ## Dashes along a form -/

/-- What a script adds opens no comment behind a dash or behind something else, closes what it
opens, and ends in a dash or in something else. -/
def Script.Takes (script : Script) (dash after : Bool) : Prop :=
  ∀ state, Text.scan (.outside dash) (script.added .sqlServer state).toList =
    some (.outside after)

theorem Script.Takes.append {first second : Script} {dash middle after : Bool}
    (takes : first.Takes dash middle) (takes' : second.Takes middle after) :
    Script.Takes (first ++ second) dash after := by
  intro state
  rw [Script.added_append, String.toList_append, Text.scan_append, takes state]
  exact takes' (first.run .sqlServer state)

theorem Script.added_singleton (dialect : Dialect) (state : Script.State) (piece : Piece) :
    Script.added dialect state [piece] = piece.added dialect state := by
  rw [Script.added, Script.added, String.append_empty]

/-- A piece that adds plain text can stand anywhere. -/
theorem Script.takes_of_plain {piece : Piece}
    (plain : ∀ state, Text.Plain (piece.added .sqlServer state).toList) (dash : Bool) :
    Script.Takes [piece] dash false := by
  intro state
  rw [Script.added_singleton]
  exact plain state dash

/-- What a script adds opens a comment, or closes all names and literals that it opens. -/
def Script.Closes (script : Script) : Prop :=
  ∀ state dash, Text.scan (.outside dash) (script.added .sqlServer state).toList = none ∨
    ∃ after, Text.scan (.outside dash) (script.added .sqlServer state).toList =
      some (.outside after)

theorem Script.Takes.closes {script : Script} {dash after : Bool}
    (takes : script.Takes dash after) : script.Closes :=
  fun state => Text.scan_eq_none_or_outside (takes state)

/-- What a script adds opens a comment if there is a dash in front of it. -/
def Script.Refuses (script : Script) (dash : Bool) : Prop :=
  ∀ state, Text.scan (.outside dash) (script.added .sqlServer state).toList = none

theorem Script.Refuses.append {first : Script} {dash : Bool} (refuses : first.Refuses dash)
    (second : Script) : Script.Refuses (first ++ second) dash := by
  intro state
  rw [Script.added_append, String.toList_append, Text.scan_append, refuses state]
  rfl

theorem Script.Closes.append {first second : Script} (closes : first.Closes)
    (closes' : second.Closes) : Script.Closes (first ++ second) := by
  intro state dash
  rw [Script.added_append, String.toList_append, Text.scan_append]
  rcases closes state dash with opened | ⟨after, closed⟩
  · rw [opened]
    exact .inl rfl
  · rw [closed]
    exact closes' _ after

/-- What follows opens a comment, whatever is in front of it. -/
theorem Script.Closes.refuses {first second : Script} (closes : first.Closes)
    (refuses : ∀ dash, second.Refuses dash) (dash : Bool) :
    Script.Refuses (first ++ second) dash := by
  intro state
  rw [Script.added_append, String.toList_append, Text.scan_append]
  rcases closes state dash with opened | ⟨after, closed⟩
  · rw [opened]
    rfl
  · rw [closed]
    exact refuses after _

/-- Where dashes stand in a form: its pieces fit together, and no node that may begin with a minus
stands behind a dash. -/
inductive Form.Flows (leads : Node → Bool) : Bool → Form → Bool → Prop
  | nil {dash : Bool} : Form.Flows leads dash [] dash
  | piece {dash middle after : Bool} {piece : Piece} {form : Form} :
    Script.Takes [piece] dash middle → Form.Flows leads middle form after →
    Form.Flows leads dash (.piece piece :: form) after
  | node {dash after : Bool} {node : Node} {form : Form} :
    (dash = true → leads node = false) → Form.Flows leads false form after →
    Form.Flows leads dash (.node node :: form) after

namespace Form

variable {leads : Node → Bool} {dash : Bool}

theorem Flows.append {first second : Form} {middle after : Bool}
    (flows : Flows leads dash first middle) (flows' : Flows leads middle second after) :
    Flows leads dash (first ++ second) after := by
  induction flows with
  | nil => exact flows'
  | piece takes _ ih => exact .piece takes (ih flows')
  | node apart _ ih => exact .node apart (ih flows')

theorem flows_piece {piece : Piece}
    (plain : ∀ state, Text.Plain (piece.added .sqlServer state).toList) :
    Flows leads dash [.piece piece] false :=
  .piece (Script.takes_of_plain plain dash) .nil

theorem flows_text {sql : String} (plain : Text.Plain sql.toList) :
    Flows leads dash (text sql) false := by
  show Flows leads dash [.piece (.edit (.append sql))] false
  exact flows_piece fun _ => plain

/-- Texts around a form. -/
theorem Flows.between {body : Form} {opening closing : String}
    (flows : Flows leads false body false) (plain : Text.Plain opening.toList)
    (plain' : Text.Plain closing.toList) :
    Flows leads dash (text opening ++ body ++ text closing) false :=
  ((flows_text plain).append flows).append (flows_text plain')

theorem flows_newline : Flows leads dash (script .newline) false := by
  show Flows leads dash [.piece (.edit .newline)] false
  refine flows_piece fun state => Text.plain_of_isOrdinary ?_ ?_
  · simp [Piece.added, Draft.lineBreak]
  · simp only [Piece.added, Draft.lineBreak, String.toList_append, String.toList_ofList,
      List.forall_mem_append]
    refine ⟨List.all_eq_true.1 (by decide), fun c member => ?_⟩
    rw [(List.mem_replicate.1 member).2]
    rfl

theorem flows_tableName (id : TableId) (preferred : String) :
    Flows leads dash (script (.tableName id preferred)) false := by
  show Flows leads dash [.piece (.tableName id preferred)] false
  exact flows_piece fun _ => Text.plain_quoteIdentifier _

theorem flows_parameter (value : Expr) : Flows leads dash (script (.parameter value)) false := by
  show Flows leads dash [.piece (.edit (.parameter value))] false
  refine flows_piece fun state => ?_
  have written : (Piece.added .sqlServer state (.edit (.parameter value))).toList =
      ['@', 'p'] ++ Nat.toDigits 10 state.draft.nextParameter := by
    simp [Piece.added, Dialect.sqlServer, Draft.nextName]
  rw [written]
  exact Text.Plain.append (by decide) (Text.plain_toDigits _)

/-- A piece without text. -/
theorem flows_silent {piece : Piece} (silent : ∀ state, piece.added .sqlServer state = "") :
    Flows leads dash [.piece piece] dash := by
  refine .piece ?_ .nil
  intro state
  rw [Script.added_singleton, silent]
  rfl

theorem flows_node {node : Node} (apart : dash = true → leads node = false) :
    Flows leads dash (Form.node node) false :=
  .node apart .nil

/-- A node at the start of a line, or behind anything but a dash. -/
theorem flows_even_node (node : Node) : Flows leads false (Form.node node) false :=
  flows_node nofun

theorem Flows.block {body : Form} (flows : Flows leads false body false) :
    Flows leads dash (block body) false := by
  have opened : Flows leads dash (script [.edit .indent, .edit .newline]) false :=
    (flows_silent fun _ => rfl).append flows_newline
  have closed : Flows leads false (script [.edit .dedent, .edit .newline]) false :=
    (flows_silent fun _ => rfl).append flows_newline
  exact (opened.append flows).append closed

/-- What stands in parentheses as an operand has a dash in front of it only where it stands
alone. -/
theorem flows_around {body : Form} {position : Position}
    (flows : ∀ dash', (dash' = true → position = .whole ∧ dash = true) →
      Flows leads dash' body false) :
    Flows leads dash (around position body) false := by
  cases position with
  | whole => exact flows dash fun dashed => ⟨rfl, dashed⟩
  | operand => exact (flows false nofun).between (by decide) (by decide)

section Clauses

variable {ctx : RenderContext} (dialect : ctx.dialect = .sqlServer)

include dialect

theorem flows_identifier (name : String) :
    Flows leads dash (script (ctx.identifier name)) false := by
  rw [RenderContext.identifier, dialect]
  exact flows_text (Text.plain_quoteIdentifier name)

/-- A literal stands behind anything but a dash, and behind a dash if it has no minus. -/
theorem flows_literal {value : Value} {sql : String}
    (literal : ctx.literal value = .ok sql) (apart : dash = true → value.hasMinus = false) :
    Flows leads dash (.text sql) false := by
  refine .piece ?_ .nil
  intro state
  rw [Script.added_singleton]
  exact (RenderContext.signed_of_literal dialect literal).scan apart

/-- The words of clauses can stand anywhere. -/
theorem plain_words : ∀ sql ∈ ctx.words, Text.Plain sql.toList := by
  rw [RenderContext.words, dialect]
  decide

/-- Clauses begin and end without a dash, whatever the nodes in them. -/
theorem isKept_flows (leads : Node → Bool) :
    IsKept ctx fun form => Flows leads false form false where
  nil := .nil
  append := .append
  block := .block
  word sql known := flows_text (plain_words dialect sql known)
  newline := flows_newline
  identifier := flows_identifier dialect
  tableName := flows_tableName
  node _ := flows_even_node _

/-- A nested select in parentheses can stand behind a dash. -/
theorem flows_subquery (asDocument : Bool) (query : Select) :
    Flows leads dash (subquery ctx asDocument query) false :=
  ((isKept_flows dialect leads).nested asDocument query).between (by decide) (by decide)

end Clauses

end Form

end SqlLowering
