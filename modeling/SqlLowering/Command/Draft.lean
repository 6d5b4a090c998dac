import SqlLowering.Command.Recipe
import SqlLowering.Dialect

/-!
Drafts of commands. Text is written into an open segment; a parameter or a list closes the segment
and adds a step of its own. At the end the command has a fixed text unless it has a list.
-/

namespace SqlLowering

/-- What has been written so far. Its numbers have no upper bound; words of 64 bits hold them as long
as the parameters, the levels and the blanks at the start of a line are each fewer than 2^64. -/
structure Draft where
  indentWidth : Nat
  indent : Nat
  /-- The number of the next parameter or list. -/
  nextParameter : Nat
  /-- The open segment. -/
  segment : String
  /-- All closed segments. -/
  closed : String
  steps : List Step
  parameters : List Binding
  hasList : Bool

namespace Draft

/-- The number of blanks to a level when nothing else is asked for. -/
def defaultIndentWidth : Nat := 4

/-- Nothing written. -/
def start (indentWidth : Nat) : Draft where
  indentWidth := indentWidth
  indent := 0
  nextParameter := 0
  segment := ""
  closed := ""
  steps := []
  parameters := []
  hasList := false

/-- One thing to be written. -/
inductive Edit where
  | append (sql : String)
  | newline
  | indent
  | dedent
  | parameter (value : Expr)
  | list (source : Expr)

/-- Text at the end of the open segment. -/
def append (draft : Draft) (sql : String) : Draft :=
  { draft with segment := draft.segment ++ sql }

/-- A line break and the blanks of the current level. -/
def lineBreak (draft : Draft) : String :=
  "\n" ++ String.ofList (List.replicate (draft.indent * draft.indentWidth) ' ')

/-- The open segment closed and added as a step, if there is anything in it. -/
def flush (draft : Draft) : Draft :=
  if draft.segment.isEmpty then draft
  else
    { draft with
      segment := ""
      closed := draft.closed ++ draft.segment
      steps := draft.steps ++ [.text draft.segment] }

/-- The name of the next parameter or list. -/
def nextName (draft : Draft) : String :=
  "p" ++ toString draft.nextParameter

/-- An expression bound as a parameter, with its placeholder in the text. -/
def parameter (dialect : Dialect) (draft : Draft) (value : Expr) : Draft :=
  let placeholder := dialect.placeholder draft.nextName
  let binding : Binding := ⟨draft.nextName, placeholder, value⟩
  let flushed := (draft.append placeholder).flush
  { flushed with
    nextParameter := draft.nextParameter + 1
    steps := flushed.steps ++ [.parameter binding]
    parameters := flushed.parameters ++ [binding] }

/-- A collection bound element by element; its placeholders are known only to a build. -/
def list (dialect : Dialect) (draft : Draft) (source : Expr) : Draft :=
  let name := draft.nextName ++ "_"
  let flushed := draft.flush
  { flushed with
    nextParameter := draft.nextParameter + 1
    steps := flushed.steps ++ [.list ⟨name, dialect.placeholder name, dialect.emptyList, source⟩]
    hasList := true }

/-- The draft after an edit. -/
def step (dialect : Dialect) (draft : Draft) : Edit → Draft
  | .append sql => draft.append sql
  | .newline => draft.append draft.lineBreak
  | .indent => { draft with indent := draft.indent + 1 }
  | .dedent => { draft with indent := draft.indent - 1 }
  | .parameter value => draft.parameter dialect value
  | .list source => draft.list dialect source

/-- The draft after edits. -/
def run (dialect : Dialect) (draft : Draft) (edits : List Edit) : Draft :=
  edits.foldl (step dialect) draft

/-- The recipe of everything that has been written. -/
def finish (draft : Draft) : Recipe :=
  let flushed := draft.flush
  if flushed.hasList then .stepwise flushed.steps
  else .fixed flushed.closed flushed.parameters

end Draft

end SqlLowering
