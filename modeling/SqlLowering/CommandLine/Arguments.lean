import SqlLowering.Config.Settings

/-!
Arguments of the command line: what is to be done, and with which files. Options stand before or
after the file that they go with, each at most once.
-/

namespace SqlLowering.CommandLine

/-- What is to be done. -/
inductive Job where
  /-- Lower a query and report on it, for some inputs and a row if they are given. -/
  | lower (query : String) (inputs row : Option String) (format : Option OutputFormat)
  /-- Identify a query. -/
  | fingerprint (query : String)

/-- Arguments that have been understood. -/
structure Invocation where
  config : String
  job : Job

/-- An option; all of them take a value. -/
inductive Flag where
  | config
  | inputs
  | format
  | row
deriving DecidableEq, Repr

/-- The name of an option behind two hyphens. -/
def Flag.name : Flag → String
  | .config => "config"
  | .inputs => "inputs"
  | .format => "format"
  | .row => "row"

/-- The letter of an option behind one hyphen. -/
def Flag.letter : Flag → Char
  | .config => 'c'
  | .inputs => 'i'
  | .format => 'f'
  | .row => 'r'

/-! ## Single arguments -/

/-- What an argument is. -/
inductive Argument where
  /-- The end of the options. -/
  | separator
  /-- An option, with its value if that stands in the same argument. -/
  | flag (flag : Flag) (attached : Option String)
  | operand (text : String)
  | unknown

namespace Argument

/-- A long option, with its value behind an equals sign. -/
def ofLong (known : List Flag) (text : List Char) : Argument :=
  let name := String.ofList (text.takeWhile (· ≠ '='))
  let attached := match text.dropWhile (· ≠ '=') with
    | [] => none
    | _ :: value => some (String.ofList value)
  match known.find? fun candidate => candidate.name = name with
  | some found => .flag found attached
  | none => .unknown

/-- A short option, with its value right behind the letter or behind an equals sign. -/
def ofShort (known : List Flag) (letter : Char) (rest : List Char) : Argument :=
  let attached := match rest with
    | [] => none
    | '=' :: value => some (String.ofList value)
    | value => some (String.ofList value)
  match known.find? fun candidate => candidate.letter = letter with
  | some found => .flag found attached
  | none => .unknown

/-- What an argument is, where some options are known. -/
def of (known : List Flag) (text : String) : Argument :=
  match text.toList with
  | ['-', '-'] => .separator
  | '-' :: '-' :: rest => ofLong known rest
  | '-' :: letter :: rest => ofShort known letter rest
  | _ => .operand text

end Argument

/-! ## Rows of arguments -/

/-- Options with their values, in order. -/
abbrev Flags := List (Flag × String)

/-- The options in front of the first operand, and the arguments from there on. -/
def scanFront (known : List Flag) : List String → Option (Flags × List String)
  | [] => some ([], [])
  | arg :: rest =>
    match Argument.of known arg with
    | .operand text => some ([], text :: rest)
    | .flag flag (some value) => do
      let (flags, left) ← scanFront known rest
      return ((flag, value) :: flags, left)
    | .flag flag none =>
      match rest with
      | [] => none
      | next :: rest =>
        match Argument.of known next with
        | .operand value => do
          let (flags, left) ← scanFront known rest
          return ((flag, value) :: flags, left)
        | _ => none
    | .separator | .unknown => none

/-- The options and the operands among arguments. -/
def scan (known : List Flag) : List String → Option (Flags × List String)
  | [] => some ([], [])
  | arg :: rest =>
    match Argument.of known arg with
    | .separator => some ([], rest)
    | .operand text => do
      let (flags, operands) ← scan known rest
      return (flags, text :: operands)
    | .flag flag (some value) => do
      let (flags, operands) ← scan known rest
      return ((flag, value) :: flags, operands)
    | .flag flag none =>
      match rest with
      | [] => none
      | next :: rest =>
        match Argument.of known next with
        | .operand value => do
          let (flags, operands) ← scan known rest
          return ((flag, value) :: flags, operands)
        | _ => none
    | .unknown => none

/-- The value of an option that stands at most once. -/
def flagValue? {α : Type} (read : String → Option α) (flag : Flag) (flags : Flags) :
    Option (Option α) :=
  match flags.filter fun entry => entry.1 = flag with
  | [] => some none
  | [(_, value)] => (read value).map some
  | _ => none

/-- The name of a file, which is not empty. -/
def path? (text : String) : Option String :=
  if text.isEmpty then none else some text

/-- The only operand, the name of a file. -/
def onlyPath? : List String → Option String
  | [operand] => path? operand
  | _ => none

/-! ## Invocations -/

/-- The configuration file when none is named. -/
def defaultConfig : String := "config.yaml"

/-- The configuration file: the one named behind the command, in front of it, or by a variable,
which is looked at unless a file is named in both places. -/
def config? (env : Environment) (front behind : Option String) : Option String :=
  match front, behind with
  | some _, some path => some path
  | front, behind =>
    match env.get? "RELQ_CONFIG" with
    | some value => do
      let named ← path? value
      return (behind.or front).getD named
    | none => some ((behind.or front).getD defaultConfig)

/-- What the arguments ask for. -/
def Invocation.parse? (env : Environment) (args : List String) : Option Invocation := do
  let (frontFlags, left) ← scanFront [.config] args
  let front ← flagValue? path? .config frontFlags
  match left with
  | "translate" :: rest =>
    let (flags, operands) ← scan [.config, .inputs, .format, .row] rest
    let behind ← flagValue? path? .config flags
    let inputs ← flagValue? path? .inputs flags
    let format ← flagValue? OutputFormat.ofName? .format flags
    let row ← flagValue? path? .row flags
    let query ← onlyPath? operands
    return ⟨← config? env front behind, .lower query inputs row format⟩
  | "fingerprint" :: rest =>
    let (flags, operands) ← scan [.config] rest
    let behind ← flagValue? path? .config flags
    let query ← onlyPath? operands
    return ⟨← config? env front behind, .fingerprint query⟩
  | _ => none

/-- The files that a job reads. -/
def Job.paths : Job → List String
  | .lower query inputs row _ => query :: (inputs.toList ++ row.toList)
  | .fingerprint query => [query]

/-- The files that an invocation reads, if they are there. -/
def Invocation.paths (invocation : Invocation) : List String :=
  invocation.config :: invocation.job.paths

end SqlLowering.CommandLine
