import SqlLowering.Text.Alphanumeric
import SqlLowering.Text.Basic

/-!
Variables of the environment, and files that set them as `NAME=value`. A value is bare or has parts
in quotes, which may go on over several lines. Outside single quotes `$name` and `${name}` stand for
the value of a variable.
-/

namespace SqlLowering

/-- Variables with their values; of a repeated one the first counts. -/
abbrev Environment := List (String × String)

namespace Environment

/-- The value of a variable. -/
def get? (env : Environment) (name : String) : Option String :=
  env.lookup name

/-- The environment with a variable set unless it is set already. -/
def setDefault (env : Environment) (name value : String) : Environment :=
  if (env.get? name).isSome then env else env ++ [(name, value)]

/-! ## Values -/

/-- A blank that ends a value. -/
def isSpace (c : Char) : Bool :=
  c = ' ' || c = '\t'

/-- Where in a value a character stands. The flag says whether that is within double quotes. -/
inductive Place where
  | text (quoted : Bool)
  /-- Behind a backslash. -/
  | escape (quoted : Bool)
  | single
  /-- In the name of a variable, as far as it has been read. -/
  | name (quoted : Bool) (read : List Char)
  /-- In a name between braces. -/
  | braced (quoted : Bool) (read : List Char)
  /-- Behind the value, where only a comment may follow. -/
  | ended

/-- The character that a backslash and a letter stand for. -/
def escape? : Char → Option Char
  | 'n' => some '\n'
  | c => if ['\\', '\x27', '"', '$', ' '].contains c then some c else none

/-- What a name stands for; nothing if there is no such variable. -/
def expand (env : Environment) (name : List Char) : List Char :=
  ((env.get? (String.ofList name)).getD "").toList

/-- The rest of a value from some place on. The character that ends a name without braces stands
for itself, even if it is a blank or a quote. -/
def readValue (env : Environment) : Place → List Char → Option (List Char)
  | .text quoted, [] | .escape quoted, [] => if quoted then none else some []
  | .name quoted read, [] => if quoted then none else some (env.expand read)
  | .single, [] | .braced _ _, [] => none
  | .ended, [] => some []
  | .ended, c :: rest =>
    if isSpace c then readValue env .ended rest else if c = '#' then some [] else none
  | .escape quoted, c :: rest => do return (← escape? c) :: (← readValue env (.text quoted) rest)
  | .single, c :: rest =>
    if c = '\x27' then readValue env (.text false) rest
    else do return c :: (← readValue env .single rest)
  | .name quoted read, c :: rest =>
    if Text.isAlphanumeric c then readValue env (.name quoted (read ++ [c])) rest
    else if c = '\x7b' && read.isEmpty then readValue env (.braced quoted []) rest
    else if c = '$' then do return env.expand read ++ (← readValue env (.name quoted []) rest)
    else do return env.expand read ++ c :: (← readValue env (.text quoted) rest)
  | .braced quoted read, c :: rest =>
    if c = '\x7d' then do return env.expand read ++ (← readValue env (.text quoted) rest)
    else readValue env (.braced quoted (read ++ [c])) rest
  | .text quoted, c :: rest =>
    if c = '$' then readValue env (.name quoted []) rest
    else if c = '\\' then readValue env (.escape quoted) rest
    else if c = '"' then readValue env (.text !quoted) rest
    else if !quoted && c = '\x27' then readValue env .single rest
    else if !quoted && isSpace c then readValue env .ended rest
    else do return c :: (← readValue env (.text quoted) rest)

/-- The names of variables that a file may ask for. -/
def mentioned : List Char → List String
  | [] => []
  | c :: rest =>
    if c = '$' then
      String.ofList (rest.takeWhile Text.isAlphanumeric) ::
        String.ofList ((rest.drop 1).takeWhile (· ≠ '\x7d')) :: mentioned rest
    else mentioned rest

/-! ## Settings -/

/-- Whether a name goes on with a character. -/
def isNameChar (c : Char) : Bool :=
  c.isAlphanum || c = '_' || c = '.'

/-- A name at the start of a text, and the rest without the white space behind the name. -/
def readName? : List Char → Option (String × List Char)
  | [] => none
  | c :: rest =>
    if c.isAlpha || c = '_' then
      some (String.ofList (c :: rest.takeWhile isNameChar),
        Text.skipBlanks (rest.dropWhile isNameChar))
    else none

/-- The value behind a name. -/
def readSetting? (env : Environment) : List Char → Option String
  | '=' :: rest =>
    match Text.skipBlanks rest with
    | [] | '#' :: _ => some ""
    | start => (env.readValue (.text false) start).map String.ofList
  | _ => none

/-- A text without the white space at its end. -/
def trimEnd (text : List Char) : List Char :=
  (Text.skipBlanks text.reverse).reverse

/-- What a line says: nothing, or a variable and its value. The word `export` may stand in front. -/
def readLine? (env : Environment) (line : List Char) : Option (Option (String × String)) :=
  match Text.skipBlanks (trimEnd line) with
  | [] | '#' :: _ => some none
  | start => do
    let (name, rest) ← readName? start
    let (name, rest) ←
      if name = "export" && rest.head? != some '=' then readName? rest else pure (name, rest)
    return some (name, ← env.readSetting? rest)

/-! ## Lines -/

/-- What a character of a line stands behind. -/
inductive Behind where
  | text
  | blank
  | backslash
  | singleQuote
  /-- Behind a backslash within single quotes: a quote here leaves the line open, though it ends the
  quoted part of the value. -/
  | singleBackslash
  | doubleQuote
  | doubleBackslash

namespace Behind

/-- What stands behind a character that is neither escaped nor quoted. -/
def ofPlain (c : Char) : Behind :=
  if c = '\\' then .backslash
  else if c = '"' then .doubleQuote
  else if c = '\x27' then .singleQuote
  else .text

/-- What the next character stands behind. -/
def next : Behind → Char → Behind
  | .text, c =>
    if Text.isBlank c && c != '\n' && c != '\r' then .blank else ofPlain c
  | .blank, c => ofPlain c
  | .backslash, _ => .text
  | .singleQuote, c =>
    if c = '\\' then .singleBackslash else if c = '\x27' then .text else .singleQuote
  | .singleBackslash, _ => .singleQuote
  | .doubleQuote, c =>
    if c = '\\' then .doubleBackslash else if c = '"' then .text else .doubleQuote
  | .doubleBackslash, _ => .doubleQuote

end Behind

/-- The part of a line in front of a comment, which starts behind a blank, and what the end of the
line stands behind if there is no comment. -/
def uncommented : Behind → List Char → List Char × Option Behind
  | behind, [] => ([], some behind)
  | behind, c :: rest =>
    match behind, c with
    | .blank, '#' => ([], none)
    | behind, c =>
      let (kept, final) := uncommented (behind.next c) rest
      (c :: kept, final)

/-- The lines of a text, each with the character that ends it. -/
def linesWithEnds : List Char → List (List Char)
  | [] => []
  | c :: rest =>
    if c = '\n' then [c] :: linesWithEnds rest
    else match linesWithEnds rest with
      | [] => [[c]]
      | line :: more => (c :: line) :: more

/-- The lines that settings are read from: a line that leaves a quote open goes on with the next
one. At the end of the text a line has to be complete; otherwise the last element is none. -/
def gatherLines : Behind → List Char → List (List Char) → List (Option (List Char))
  | .text, _, [] => []
  | _, _, [] => [none]
  | behind, gathered, line :: rest =>
    if (Text.skipBlanks (gathered ++ line)).head? = some '#' then gatherLines .text [] rest
    else match uncommented behind line with
      | (kept, none) | (kept, some .text) => some (gathered ++ kept) :: gatherLines .text [] rest
      | (kept, some behind) => gatherLines behind (gathered ++ kept) rest

/-- The environment with the variables of lines set unless they are set already, up to the first
line that cannot be read. -/
def setLines (env : Environment) : List (Option (List Char)) → Environment
  | [] | none :: _ => env
  | some line :: rest =>
    match env.readLine? line with
    | none => env
    | some none => env.setLines rest
    | some (some (name, value)) => (env.setDefault name value).setLines rest

/-- The environment with the variables of a file set unless they are set already. A mark of the byte
order in front is passed over. -/
def setFile (env : Environment) (text : String) : Environment :=
  let chars := match text.toList with
    | '\ufeff' :: rest => rest
    | chars => chars
  env.setLines (gatherLines .text [] (linesWithEnds chars))

end Environment

end SqlLowering
