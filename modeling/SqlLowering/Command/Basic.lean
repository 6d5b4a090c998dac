import SqlLowering.Value.Basic

/-!
Commands for the database: text with placeholders, and the values of the parameters.
-/

namespace SqlLowering

/-- The value of a named parameter. -/
structure Parameter where
  name : String
  value : Value

/-- A command: its text and its parameters in order. -/
structure Command where
  text : String
  parameters : List Parameter

namespace Command

/-- The command without text or parameters. -/
def empty : Command :=
  ⟨"", []⟩

/-- The command with its text replaced. -/
def setText (command : Command) (text : String) : Command :=
  { command with text := text }

/-- The command with one more parameter. -/
def addParameter (command : Command) (parameter : Parameter) : Command :=
  { command with parameters := command.parameters ++ [parameter] }

/-- The value of the first parameter of a name. -/
def value? (command : Command) (name : String) : Option Value :=
  (command.parameters.find? fun parameter => parameter.name = name).map (·.value)

end Command

end SqlLowering
