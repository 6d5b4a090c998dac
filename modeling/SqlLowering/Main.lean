import SqlLowering.CommandLine.Run

/-!
The command line: reads the files and variables that a run depends on, and prints its outcome.
-/

namespace SqlLowering.CommandLine

/-- The variables that every run looks at. -/
def variableNames : List String :=
  ["RELQ_CONFIG", "RELQ_DIALECT", "RELQ_INDENT_WIDTH", "RELQ_OUTPUT_FORMAT"]

/-- How the arguments are written. -/
def usage : String :=
  "Usage: relq [-c FILE] translate QUERY [-i FILE] [-f text|json] [-r FILE]\n" ++
  "       relq [-c FILE] fingerprint QUERY"

/-- The variables of some names that are set. -/
def readVariables (names : List String) : IO Environment :=
  names.filterMapM fun name => do
    return (← IO.getEnv name).map fun value => (name, value)

/-- What a failure of the system says about a file. -/
def fileError : IO.Error → FileError
  | .inappropriateType _ code _ => if code = 21 then .isDirectory else .notDirectory
  | .invalidArgument _ _ _ => .nameTooLong
  | _ => .missing

/-- What has been read at some paths. -/
abbrev Readings := List (String × Except FileError String)

/-- What is read at some paths. -/
def readFiles (paths : List String) : IO Readings :=
  paths.mapM fun (path : String) => do
    return (path, (← (IO.FS.readFile path).toBaseIO).mapError fileError)

/-- The files that have been read. -/
def Readings.files (readings : Readings) : Files := fun path =>
  (readings.lookup path).getD (.error .missing)

/-- The outcome, printed. -/
def printOutcome : Outcome → IO Unit
  | .printed text => IO.print text
  | .failed failure => IO.eprintln failure.report
  | .misused => IO.eprintln usage

end SqlLowering.CommandLine

open SqlLowering CommandLine in
/-- Runs the command line. -/
def main (args : List String) : IO UInt32 := do
  let settings ← readFiles [environmentFile]
  let mentioned := match Readings.files settings environmentFile with
    | .ok text => Environment.mentioned text.toList
    | .error _ => []
  let env ← readVariables (variableNames ++ mentioned)
  let paths := match Invocation.parse? (fullEnvironment env (Readings.files settings)) args with
    | some invocation => invocation.paths
    | none => []
  let readings := settings ++ (← readFiles paths)
  let outcome := run args env (Readings.files readings)
  printOutcome outcome
  return outcome.exitCode
