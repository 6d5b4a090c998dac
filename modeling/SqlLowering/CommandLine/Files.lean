/-!
Files by their paths, and a directory of files as it is seen from inside.
-/

namespace SqlLowering.CommandLine

/-- Why a file cannot be read. -/
inductive FileError where
  | missing
  | notDirectory
  | isDirectory
  | nameTooLong
deriving DecidableEq, Repr

/-- The wording of an error. -/
def FileError.message : FileError → String
  | .missing => "No such file or directory (os error 2)"
  | .notDirectory => "Not a directory (os error 20)"
  | .isDirectory => "Is a directory (os error 21)"
  | .nameTooLong => "File name too long (os error 36)"

/-- The contents of files by their paths. -/
abbrev Files := String → Except FileError String

/-- The contents of a file if there is anything at its path. -/
def Files.find? (files : Files) (path : String) : Option (Except FileError String) :=
  match files path with
  | .ok contents => some (.ok contents)
  | .error .isDirectory => some (.error .isDirectory)
  | .error _ => none

/-! ## Directories -/

/-- The files in a directory and below it, with their contents. -/
abbrev Directory := List (String × String)

namespace Directory

/-- Where the parts of a path have led: to a file, to a directory that is reached by some names, or
out of the directory. -/
inductive Location where
  | file (contents : String)
  | inside (names : List String)
  | outside

/-- The most bytes of a name. -/
def nameLimit : Nat := 255

/-- The most bytes of a path. -/
def pathLimit : Nat := 4095

/-- What is reached by some names. -/
def entry? (directory : Directory) (names : List String) : Option Location :=
  let path := "/".intercalate names
  match directory.lookup path with
  | some contents => some (.file contents)
  | none =>
    if directory.any fun (name, _) => (path ++ "/").isPrefixOf name then some (.inside names)
    else none

/-- Where one more part of a path leads. Nothing is known of what lies outside. -/
def step (directory : Directory) (location : Location) (part : String) :
    Except FileError Location :=
  match location with
  | .file _ => .error .notDirectory
  | .inside names =>
    if part = "" || part = "." then .ok (.inside names)
    else if part = ".." then
      .ok (if names.isEmpty then .outside else .inside names.dropLast)
    else if nameLimit < part.utf8ByteSize then .error .nameTooLong
    else match directory.entry? (names ++ [part]) with
      | some location => .ok location
      | none => .error .missing
  | .outside =>
    if part = "" || part = "." || part = ".." then .ok .outside
    else if nameLimit < part.utf8ByteSize then .error .nameTooLong
    else .error .missing

/-- Where a path leads. -/
def locate (directory : Directory) (path : String) : Except FileError Location :=
  if path.isEmpty then .error .missing
  else if pathLimit < path.utf8ByteSize then .error .nameTooLong
  else
    let start := if path.toList.head? = some '/' then Location.outside else .inside []
    (path.splitOn "/").foldlM directory.step start

/-- The files of a directory by their paths. -/
def files (directory : Directory) : Files := fun path => do
  match ← directory.locate path with
  | .file contents => return contents
  | .inside _ | .outside => .error .isDirectory

end Directory

end SqlLowering.CommandLine
