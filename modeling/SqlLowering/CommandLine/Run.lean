import SqlLowering.CommandLine.Arguments
import SqlLowering.CommandLine.Files
import SqlLowering.CommandLine.Report
import SqlLowering.Query.Text

/-!
Runs of the command line, as functions of its arguments, the environment and the files that are
there.
-/

namespace SqlLowering.CommandLine

/-! ## Failures -/

/-- Why a run failed: what could not be done, and the causes, each the cause of the one before. -/
structure Failure where
  summary : String
  causes : List String

namespace Failure

/-- Text with blanks in front of every line but the first. -/
def hanging (blanks text : String) : String :=
  ("\n" ++ blanks).intercalate (text.splitOn "\n")

/-- A cause behind its number. -/
def numbered (cause : String) (number : Nat) : String :=
  String.ofList (List.replicate (5 - (toString number).length) ' ') ++ toString number ++ ": " ++
    hanging "       " cause

/-- The lines of the causes: a single one stands alone, more than one are numbered. -/
def causeLines : List String → List String
  | [] => []
  | [cause] => ["    " ++ hanging "    " cause]
  | causes => causes.zipIdx.map fun (cause, i) => numbered cause i

/-- A failure as it is reported. -/
def report (failure : Failure) : String :=
  let causes :=
    if failure.causes.isEmpty then ""
    else "\n\nCaused by:\n" ++ "\n".intercalate (causeLines failure.causes)
  "Error: " ++ failure.summary ++ causes

end Failure

/-- The causes of an error of a command. -/
def commandCauses : CommandError → List String
  | .eval name error => [(CommandError.eval name error).message, error.message]
  | error => [error.message]

/-- The causes of an error of a row. -/
def rowCauses : RowError → List String
  | .column ordinal error => [(RowError.column ordinal error).message, error.message]
  | .subDocument ordinal => [(RowError.subDocument ordinal).message, "malformed document"]
  | .subDocumentShape ordinal error =>
    [(RowError.subDocumentShape ordinal error).message, error.message]
  | error => [error.message]

/-! ## Files -/

/-- What the contents of a file read as. -/
def readAs {α : Type} (files : Files) (path : String) (read : String → Option α) :
    Except Failure α :=
  match files path with
  | .error error => .error ⟨"Failed to read " ++ path, [error.message]⟩
  | .ok contents =>
    match read contents with
    | some a => .ok a
    | none => .error ⟨"Failed to parse " ++ path, []⟩

/-- The inputs that a document of plain values denotes. -/
def inputsOfPlain? : Json → Option Inputs
  | .object members =>
    some (NameMap.ofList (members.map fun (name, json) => (name, Value.plain json)))
  | _ => none

/-- The row that a document of plain values denotes. -/
def rowOfPlain? : Json → Option Row
  | .array items => some (items.map Value.plain)
  | _ => none

/-! ## Jobs -/

/-- The report on a query, for some inputs and a row if they are given. -/
def reportOn (dialect : Dialect) (indentWidth : Nat) (files : Files) (query : String)
    (inputs? row? : Option String) : Except Failure Report := do
  let select ← readAs files query Select.parse?
  let lowered ← (select.lower dialect indentWidth).mapError fun error =>
    ⟨"Failed to translate " ++ query, [error.message]⟩
  let inputs ← inputs?.mapM fun path => readAs files path fun contents =>
    (Json.parse? contents).bind inputsOfPlain?
  let (sql, parameters) ← match inputs with
    | some inputs => do
      let command ← (lowered.recipe.apply .empty inputs).mapError fun error =>
        ⟨"Failed to bind parameters", commandCauses error⟩
      pure (builtParts command)
    | none => pure (pendingParts lowered.recipe)
  let result ← row?.mapM fun path => do
    let row ← readAs files path fun contents => (Json.parse? contents).bind rowOfPlain?
    (lowered.plan.materialize row (inputs.getD .empty)).mapError fun error =>
      ⟨"Failed to materialize row", rowCauses error⟩
  return {
    fingerprint := select.fingerprint
    dialectName := dialect.name
    sql := sql
    parameters := parameters
    columns := lowered.columns
    plan := lowered.plan
    row := result }

/-- What a job prints. -/
def Job.run (settings : Settings) (dialect : Dialect) (files : Files) : Job → Except Failure String
  | .lower query inputs row format => do
    let report ← reportOn dialect settings.indentWidth files query inputs row
    return report.render (format.getD settings.format)
  | .fingerprint query => do
    let select ← readAs files query Select.parse?
    return select.fingerprint ++ "\n"

/-- The failure that refused settings are. -/
def settingsFailure (error : SettingsError) : Failure :=
  ⟨error.message, []⟩

/-- The settings that are written in the configuration file, or the default if there is none. -/
def writtenSettings (files : Files) (path : String) : Except Failure Settings :=
  match files.find? path with
  | none => .ok .default
  | some (.error error) => .error ⟨"Failed to read config file: " ++ error.message, [error.message]⟩
  | some (.ok contents) => (Settings.ofText contents).mapError settingsFailure

/-- What an invocation prints. The variables of the environment go over the written settings. -/
def Invocation.run (invocation : Invocation) (env : Environment) (files : Files) :
    Except Failure String := do
  let written ← writtenSettings files invocation.config
  let settings ← (written.override env).mapError settingsFailure
  let dialect ← settings.resolve.mapError settingsFailure
  invocation.job.run settings dialect files

/-! ## Outcomes -/

/-- How a run ends. -/
inductive Outcome where
  | printed (text : String)
  | failed (failure : Failure)
  /-- The arguments ask for nothing that can be done. -/
  | misused

/-- The exit code of an outcome. -/
def Outcome.exitCode : Outcome → UInt32
  | .printed _ => 0
  | .failed _ => 1
  | .misused => 2

/-- The file of variables. -/
def environmentFile : String := ".env"

/-- The environment with the variables of its file. -/
def fullEnvironment (env : Environment) (files : Files) : Environment :=
  match files environmentFile with
  | .ok text => env.setFile text
  | .error _ => env

/-- The outcome of a run. -/
def run (args : List String) (env : Environment) (files : Files) : Outcome :=
  let full := fullEnvironment env files
  match Invocation.parse? full args with
  | none => .misused
  | some invocation =>
    match invocation.run full files with
    | .ok text => .printed text
    | .error failure => .failed failure

end SqlLowering.CommandLine
