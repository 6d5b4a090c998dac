/-!
The characters of a configuration text with their places. Every way to end a line counts as one
character, and the common ones are all alike.
-/

namespace SqlLowering.Yaml

/-- A character with the line and the column it stands in. -/
structure Glyph where
  char : Char
  line : Nat
  column : Nat

/-- A character that ends a line. -/
def isBreak (c : Char) : Bool :=
  c = '\n' || c = '\u2028' || c = '\u2029'

/-- A blank within a line. -/
def isSpace (c : Char) : Bool :=
  c = ' ' || c = '\t'

/-- Whether a character may stand in a configuration text at all. -/
def isAllowed (c : Char) : Bool :=
  let n := c.toNat
  n = 0x09 || n = 0x0a || n = 0x0d || (0x20 ≤ n && n ≤ 0x7e) || n = 0x85 ||
    (0xa0 ≤ n && n ≤ 0xfffd) || 0x10000 ≤ n

/-- The characters from some line and column on. -/
def place (line column : Nat) : List Char → List Glyph
  | [] => []
  | '\r' :: '\n' :: rest => ⟨'\n', line, column⟩ :: place (line + 1) 0 rest
  | c :: rest =>
    if c = '\r' || c = '\u0085' then ⟨'\n', line, column⟩ :: place (line + 1) 0 rest
    else if isBreak c then ⟨c, line, column⟩ :: place (line + 1) 0 rest
    else ⟨c, line, column⟩ :: place line (column + 1) rest

/-- The characters of a text, if all of them are allowed. -/
def glyphs? (text : String) : Option (List Glyph) :=
  let chars := text.toList
  if chars.all isAllowed then some (place 0 0 chars) else none

/-- Whether a word ends here: at a blank, at the end of a line or at the end of the text. -/
def endsWord : List Glyph → Bool
  | [] => true
  | glyph :: _ => isSpace glyph.char || isBreak glyph.char

/-- Whether a document starts or ends here: with three hyphens or three points at the start of a
line. -/
def atDocumentMark : List Glyph → Bool
  | a :: b :: c :: rest =>
    a.column = 0 && (a.char = '-' || a.char = '.') && b.char = a.char && c.char = a.char &&
      endsWord rest
  | _ => false

end SqlLowering.Yaml
