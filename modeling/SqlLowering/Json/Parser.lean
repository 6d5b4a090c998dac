import SqlLowering.Json.Written

/-!
Reading JSON text. The grammar is the strict one: no comments, no trailing commas, no control
characters inside strings, nothing after the document.
-/

namespace SqlLowering.Json

/-- The rest of a text after the blanks that JSON allows between its parts. -/
def skipSpace : List Char → List Char :=
  List.dropWhile fun c => c = ' ' || c = '\n' || c = '\r' || c = '\t'

/-- The 16-bit unit of four hexadecimal digits. -/
def unit? (a b c d : Char) : Option Nat := do
  let a ← Text.hexDigit? a
  let b ← Text.hexDigit? b
  let c ← Text.hexDigit? c
  let d ← Text.hexDigit? d
  return ((a.val * 16 + b.val) * 16 + c.val) * 16 + d.val

/-- The character of an escape with a single letter. -/
def escape? : Char → Option Char
  | '"' => some '"'
  | '\\' => some '\\'
  | '/' => some '/'
  | 'b' => some '\x08'
  | 'f' => some '\x0c'
  | 'n' => some '\n'
  | 'r' => some '\r'
  | 't' => some '\t'
  | _ => none

/-- The parts of a string up to its closing quote, and the rest. -/
def readString : List Char → Option (List StringPart × List Char)
  | [] => none
  | '"' :: rest => some ([], rest)
  | '\\' :: 'u' :: a :: b :: c :: d :: rest => do
    let unit ← unit? a b c d
    let (parts, rest) ← readString rest
    return (.unit unit :: parts, rest)
  | '\\' :: c :: rest => do
    let c ← escape? c
    let (parts, rest) ← readString rest
    return (.char c :: parts, rest)
  | c :: rest =>
    if c.toNat < 0x20 then none
    else do
      let (parts, rest) ← readString rest
      return (.char c :: parts, rest)

mutual

/-- A document at the start of a text, and the rest. Every call consumes fuel, and twice the length
of the text is enough of it. -/
def readValue : Nat → List Char → Option (Written × List Char)
  | 0, _ => none
  | fuel + 1, text =>
    match skipSpace text with
    | 'n' :: 'u' :: 'l' :: 'l' :: rest => some (.null, rest)
    | 't' :: 'r' :: 'u' :: 'e' :: rest => some (.bool true, rest)
    | 'f' :: 'a' :: 'l' :: 's' :: 'e' :: rest => some (.bool false, rest)
    | '"' :: rest => do
      let (parts, rest) ← readString rest
      return (.string parts, rest)
    | '[' :: rest =>
      match skipSpace rest with
      | ']' :: rest => some (.array [], rest)
      | rest => do
        let (items, rest) ← readItems fuel rest
        return (.array items, rest)
    | '\x7b' :: rest =>
      match skipSpace rest with
      | '\x7d' :: rest => some (.object [], rest)
      | rest => do
        let (members, rest) ← readMembers fuel rest
        return (.object members, rest)
    | text => do
      let (number, rest) ← NumberText.scan? text
      return (.number number, rest)

/-- The items of an array up to its closing bracket, at least one. -/
def readItems : Nat → List Char → Option (List Written × List Char)
  | 0, _ => none
  | fuel + 1, text => do
    let (item, rest) ← readValue fuel text
    match skipSpace rest with
    | ',' :: rest =>
      let (items, rest) ← readItems fuel rest
      return (item :: items, rest)
    | ']' :: rest => return ([item], rest)
    | _ => none

/-- The members of an object up to its closing brace, at least one. -/
def readMembers : Nat → List Char → Option (List (List StringPart × Written) × List Char)
  | 0, _ => none
  | fuel + 1, text =>
    match skipSpace text with
    | '"' :: rest => do
      let (name, rest) ← readString rest
      match skipSpace rest with
      | ':' :: rest =>
        let (value, rest) ← readValue fuel rest
        match skipSpace rest with
        | ',' :: rest =>
          let (members, rest) ← readMembers fuel rest
          return ((name, value) :: members, rest)
        | '\x7d' :: rest => return ([(name, value)], rest)
        | _ => none
      | _ => none
    | _ => none

end

/-- What the whole of a text writes. -/
def Written.parse? (text : String) : Option Written :=
  let chars := text.toList
  match readValue (2 * chars.length + 2) chars with
  | some (written, rest) => if (skipSpace rest).isEmpty then some written else none
  | none => none

/-- How deeply the arrays and objects of a document may nest. -/
def depthLimit : Nat := 127

/-- The document that is the whole of a text, if it nests at most `depth` deep. -/
def parseWithin? (depth : Nat) (text : String) : Option Json :=
  (Written.parse? text).bind (·.toJson? depth)

/-- The document that is the whole of a text. -/
def parse? (text : String) : Option Json :=
  parseWithin? depthLimit text

end SqlLowering.Json
