import SqlLowering.Command.Draft
import SqlLowering.Script.TableNames

/-!
Scripts: what a query renders to before the aliases of its tables are known. Edits and mentions of
tables stand in the order of the text, so a table gets its alias where it is first mentioned.
-/

namespace SqlLowering

/-- A piece of a script. -/
inductive Piece where
  | edit (edit : Draft.Edit)
  /-- The quoted alias of a table, with the alias that the table prefers. -/
  | tableName (id : TableId) (preferred : String)

/-- Pieces in the order of the text. -/
abbrev Script := List Piece

namespace Script

/-- Text. -/
def text (sql : String) : Script :=
  [.edit (.append sql)]

/-- A line break. -/
def newline : Script :=
  [.edit .newline]

/-- An expression bound as a parameter. -/
def parameter (value : Expr) : Script :=
  [.edit (.parameter value)]

/-- A collection bound element by element. -/
def list (source : Expr) : Script :=
  [.edit (.list source)]

/-- The alias of a table. -/
def tableName (id : TableId) (preferred : String) : Script :=
  [.tableName id preferred]

/-- A script on lines of its own, one level further in. -/
def block (body : Script) : Script :=
  [.edit .indent, .edit .newline] ++ body ++ [.edit .dedent, .edit .newline]

/-- Scripts with text between them. -/
def separated (separator : String) : List Script → Script
  | [] => []
  | [script] => script
  | script :: rest => script ++ text separator ++ separated separator rest

/-- The state of a run: the aliases assigned, and what has been written. -/
structure State where
  names : TableNames
  draft : Draft

/-- The state after a piece. -/
def State.step (dialect : Dialect) (state : State) : Piece → State
  | .edit e => { state with draft := state.draft.step dialect e }
  | .tableName id preferred =>
    let (chosen, names) := state.names.nameFor id preferred
    ⟨names, state.draft.append (dialect.quoteIdentifier chosen)⟩

/-- The state after a script. -/
def run (dialect : Dialect) (script : Script) (state : State) : State :=
  script.foldl (State.step dialect) state

/-- The recipe of a whole script. -/
def recipe (dialect : Dialect) (indentWidth : Nat) (script : Script) : Recipe :=
  (script.run dialect ⟨.empty, .start indentWidth⟩).draft.finish

end Script

end SqlLowering
