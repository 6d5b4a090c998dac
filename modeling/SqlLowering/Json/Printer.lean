import SqlLowering.Json.Basic
import SqlLowering.Decimal.Style

/-!
Writing JSON text, on one line without blanks or indented by two blanks a level. Strings escape the
quote, the backslash and the control characters below U+0020 and nothing else.
-/

namespace SqlLowering.Json

/-- Numbers are written without an exponent from `1e-5` up to below `1e16`, whole ones with a zero
after the point; what is not finite has no number and is null. -/
def floatStyle : Decimal.Style where
  positional exponent := -5 ≤ exponent && exponent ≤ 15
  pointZero := true
  tie := .toEven
  notANumber := "null"
  infinity := "null"

/-- A floating-point number as a literal. -/
def floatText (x : Float) : String :=
  if x.isFinite then floatStyle.write x else "null"

/-- One character inside a string. -/
def escapeChar (c : Char) : String :=
  if c = '"' then "\\\""
  else if c = '\\' then "\\\\"
  else if c = '\x08' then "\\b"
  else if c = '\x0c' then "\\f"
  else if c = '\n' then "\\n"
  else if c = '\r' then "\\r"
  else if c = '\t' then "\\t"
  else if c.toNat < 0x20 then
    String.ofList ['\\', 'u', '0', '0', Nat.digitChar (c.toNat / 16), Nat.digitChar (c.toNat % 16)]
  else String.singleton c

/-- A string between quotes. -/
def stringText (s : String) : String :=
  "\"" ++ String.join (s.toList.map escapeChar) ++ "\""

mutual

/-- A document on one line. -/
def compact : Json → String
  | .null => "null"
  | .bool b => if b then "true" else "false"
  | .int i => toString i
  | .float x => floatText x
  | .string s => stringText s
  | .array items => "[" ++ ",".intercalate (compactItems items) ++ "]"
  | .object members => "\x7b" ++ ",".intercalate (compactMembers members) ++ "\x7d"

/-- The texts of items. -/
def compactItems : List Json → List String
  | [] => []
  | item :: rest => item.compact :: compactItems rest

/-- The texts of members. -/
def compactMembers : List (String × Json) → List String
  | [] => []
  | (name, value) :: rest => (stringText name ++ ":" ++ value.compact) :: compactMembers rest

end

/-- The start of a line at an indentation level. -/
def lineStart (level : Nat) : String :=
  "\n" ++ String.ofList (List.replicate (2 * level) ' ')

/-- Parts between brackets, each on a line of its own; nothing between the brackets if there are
none. -/
def bracketed (opening closing : String) (level : Nat) (parts : List String) : String :=
  if parts.isEmpty then opening ++ closing
  else
    opening ++ ",".intercalate (parts.map (lineStart (level + 1) ++ ·)) ++ lineStart level ++
      closing

mutual

/-- A document on indented lines, at a level. -/
def prettyAt (level : Nat) : Json → String
  | .array items => bracketed "[" "]" level (prettyItems (level + 1) items)
  | .object members => bracketed "\x7b" "\x7d" level (prettyMembers (level + 1) members)
  | .null => "null"
  | .bool b => if b then "true" else "false"
  | .int i => toString i
  | .float x => floatText x
  | .string s => stringText s

/-- The texts of items at a level. -/
def prettyItems (level : Nat) : List Json → List String
  | [] => []
  | item :: rest => item.prettyAt level :: prettyItems level rest

/-- The texts of members at a level. -/
def prettyMembers (level : Nat) : List (String × Json) → List String
  | [] => []
  | (name, value) :: rest =>
    (stringText name ++ ": " ++ value.prettyAt level) :: prettyMembers level rest

end

/-- A document on indented lines. -/
def pretty (json : Json) : String :=
  json.prettyAt 0

end SqlLowering.Json
