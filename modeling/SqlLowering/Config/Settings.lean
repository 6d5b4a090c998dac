import SqlLowering.Config.Environment
import SqlLowering.Config.Yaml.Parser
import SqlLowering.Dialect
import SqlLowering.Command.Draft

/-!
Settings of the command line: from a configuration document, overridden by variables of the
environment.
-/

namespace SqlLowering

/-- The form of a report. -/
inductive OutputFormat where
  | text
  | json
deriving DecidableEq, Repr

/-- The form of a name. -/
def OutputFormat.ofName? : String → Option OutputFormat
  | "text" => some .text
  | "json" => some .json
  | _ => none

/-- Settings as they are written down. -/
structure Settings where
  dialectName : String
  indentWidth : Nat
  format : OutputFormat

/-- Why settings are refused. -/
inductive SettingsError where
  | malformed
  | variable (name value : String)
  | unknownDialect (name : String)
  | indentWidth (width : Nat)

namespace Settings

/-- The greatest number of blanks to a level. -/
def maxIndentWidth : Nat := 16

/-- The settings when nothing else is said. -/
def default : Settings :=
  ⟨Dialect.sqlServer.name, Draft.defaultIndentWidth, .text⟩

end Settings

/-- The wording of an error. -/
def SettingsError.message : SettingsError → String
  | .malformed => "Failed to parse YAML"
  | .variable name value => "Invalid configuration: " ++ name ++ "=" ++ value
  | .unknownDialect name => "Invalid configuration: unknown dialect '" ++ name ++ "'"
  | .indentWidth width =>
    "Invalid configuration: indent_width " ++ toString width ++ " exceeds " ++
      toString Settings.maxIndentWidth

namespace Settings

/-- The numbers that fit in a machine word. -/
def wordLimit : Nat := Nat.pow 2 64

/-- A number that fits in a machine word. -/
def word? (n : Nat) : Option Nat :=
  if n < wordLimit then some n else none

/-- The settings of a configuration document. Entries that are not known are ignored; those of the
log have to be text. -/
def ofEntries? (entries : List (String × Yaml)) : Option Settings := do
  let lowering ← Yaml.entryOr? [] Yaml.entries? "translator" entries
  let dialectName ← Yaml.entryOr? default.dialectName Yaml.text? "dialect" lowering
  let indentWidth ←
    Yaml.entryOr? default.indentWidth (fun value => value.nat?.bind word?) "indent_width" lowering
  let output ← Yaml.entryOr? [] Yaml.entries? "output" entries
  let format ←
    Yaml.entryOr? default.format (fun value => value.text?.bind OutputFormat.ofName?) "format"
      output
  let log ← Yaml.entryOr? [] Yaml.entries? "logging" entries
  for name in ["level", "format", "output", "directory"] do
    let _ ← Yaml.entryOr? "" Yaml.text? name log
  return ⟨dialectName, indentWidth, format⟩

/-- The settings of a configuration file. -/
def ofText (text : String) : Except SettingsError Settings :=
  match ((Yaml.parse? text).bind Yaml.entries?).bind ofEntries? with
  | some settings => .ok settings
  | none => .error .malformed

/-- A number in decimal digits, with a plus sign in front or not. -/
def readWidth? (text : String) : Option Nat :=
  let digits := match text.toList with
    | '+' :: rest => rest
    | chars => chars
  if digits.isEmpty || !digits.all Char.isDigit then none
  else word? (Text.digitsValue digits)

/-- A setting, overridden by a variable if that is set. -/
def overridden {α : Type} (env : Environment) (name : String) (read : String → Option α)
    (setting : α) : Except SettingsError α :=
  match env.get? name with
  | none => .ok setting
  | some value =>
    match read value with
    | some a => .ok a
    | none => .error (.variable name value)

/-- The settings with the variables of an environment over them. -/
def override (settings : Settings) (env : Environment) : Except SettingsError Settings := do
  let dialectName ← overridden env "RELQ_DIALECT" some settings.dialectName
  let indentWidth ← overridden env "RELQ_INDENT_WIDTH" readWidth? settings.indentWidth
  let format ← overridden env "RELQ_OUTPUT_FORMAT"
    (fun value => OutputFormat.ofName? value.toLower) settings.format
  return ⟨dialectName, indentWidth, format⟩

/-- The dialect of settings that can be used. -/
def resolve (settings : Settings) : Except SettingsError Dialect :=
  match Dialect.ofName? settings.dialectName with
  | none => .error (.unknownDialect settings.dialectName)
  | some dialect =>
    if maxIndentWidth < settings.indentWidth then .error (.indentWidth settings.indentWidth)
    else .ok dialect

end Settings

end SqlLowering
