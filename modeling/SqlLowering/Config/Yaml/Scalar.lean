import SqlLowering.Config.Yaml.Glyph
import SqlLowering.Text.Digits

/-!
Scalars of configuration texts: quoted ones, plain ones and blocks of lines. A quoted or plain
scalar may go on over several lines. A single line break in it reads as a blank, and of several the
first is left out.
-/

namespace SqlLowering.Yaml

/-! ## White space -/

/-- White space inside a scalar. -/
inductive Gap where
  | none
  | blanks (chars : List Char)
  /-- Line breaks: the first, unless it is escaped, and those after it. Blanks around them do not
  count. -/
  | breaks (first : Option Char) (more : List Char)

namespace Gap

/-- White space with one more character. -/
def add (gap : Gap) (c : Char) : Gap :=
  if isBreak c then
    match gap with
    | .breaks first more => .breaks first (more ++ [c])
    | _ => .breaks (some c) []
  else
    match gap with
    | .none => .blanks [c]
    | .blanks chars => .blanks (chars ++ [c])
    | .breaks first more => .breaks first more

/-- What white space reads as. -/
def text : Gap → List Char
  | .none => []
  | .blanks chars => chars
  | .breaks (some '\n') [] => [' ']
  | .breaks (some '\n') more => more
  | .breaks first more => first.toList ++ more

/-- Whether there is any white space. -/
def isNone : Gap → Bool
  | .none => true
  | _ => false

/-- Whether white space reaches over a line break. -/
def crossesLine : Gap → Bool
  | .breaks _ _ => true
  | _ => false

end Gap

/-! ## Quoted scalars -/

/-- The character that an escape of one letter stands for. -/
def escape? : Char → Option Char
  | '0' => some '\x00'
  | 'a' => some '\x07'
  | 'b' => some '\x08'
  | 't' | '\t' => some '\t'
  | 'n' => some '\n'
  | 'v' => some '\x0b'
  | 'f' => some '\x0c'
  | 'r' => some '\r'
  | 'e' => some '\x1b'
  | ' ' => some ' '
  | '"' => some '"'
  | '/' => some '/'
  | '\\' => some '\\'
  | 'N' => some '\u0085'
  | '_' => some '\u00a0'
  | 'L' => some '\u2028'
  | 'P' => some '\u2029'
  | _ => none

/-- The number of hexadecimal digits of an escape by code point. -/
def escapeWidth? : Char → Option Nat
  | 'x' => some 2
  | 'u' => some 4
  | 'U' => some 8
  | _ => none

/-- Where in a quoted scalar a character stands. -/
inductive InQuotes where
  | text (gap : Gap)
  /-- Behind a backslash. -/
  | escape
  /-- In a code point: the number of digits to come after this one, and the value so far. -/
  | code (left value : Nat)
  /-- Behind a single quote, which ends the scalar unless it is doubled. -/
  | quote

/-- What a reader found, behind some characters. -/
def behind {α : Type} (chars : List Char) (found : Option (List Char × α)) :
    Option (List Char × α) :=
  found.map fun (text, rest) => (chars ++ text, rest)

/-- The text up to the closing quote, and the rest. Only double quotes know escapes. -/
def readQuoted (quote : Char) : InQuotes → List Glyph → Option (List Char × List Glyph)
  | .quote, [] => some ([], [])
  | _, [] => none
  | .text gap, glyph :: rest =>
    if atDocumentMark (glyph :: rest) then none
    else if isSpace glyph.char || isBreak glyph.char then
      readQuoted quote (.text (gap.add glyph.char)) rest
    else if glyph.char = quote then
      if quote = '"' then some (gap.text, rest)
      else behind gap.text (readQuoted quote .quote rest)
    else if quote = '"' && glyph.char = '\\' then behind gap.text (readQuoted quote .escape rest)
    else behind (gap.text ++ [glyph.char]) (readQuoted quote (.text .none) rest)
  | .escape, glyph :: rest =>
    if isBreak glyph.char then readQuoted quote (.text (.breaks none [])) rest
    else match escapeWidth? glyph.char with
      | some width => readQuoted quote (.code (width - 1) 0) rest
      | none => do
        let decoded ← escape? glyph.char
        behind [decoded] (readQuoted quote (.text .none) rest)
  | .code left value, glyph :: rest => do
    let digit ← Text.hexDigit? glyph.char
    let value := 16 * value + digit.val
    match left with
    | left + 1 => readQuoted quote (.code left value) rest
    | 0 =>
      if value.isValidChar then behind [Char.ofNat value] (readQuoted quote (.text .none) rest)
      else none
  | .quote, glyph :: rest =>
    if glyph.char = quote then behind [quote] (readQuoted quote (.text .none) rest)
    else some ([], glyph :: rest)

/-! ## Plain scalars -/

/-- The characters that divide the parts of a collection between brackets. -/
def flowIndicators : List Char :=
  [',', '[', ']', '\x7b', '\x7d']

/-- The characters that no plain scalar starts with, apart from those that may when a word goes on
behind them. -/
def indicators : List Char :=
  flowIndicators ++ ['-', '?', ':', '#', '&', '*', '!', '|', '>', '\x27', '"', '%', '@', '\x60']

/-- Whether a plain scalar may start here, between brackets or not. -/
def startsPlain (flow : Bool) : List Glyph → Bool
  | [] => false
  | glyph :: rest =>
    !(endsWord [glyph] || indicators.contains glyph.char) ||
      (glyph.char = '-' && !endsWord rest) ||
      (!flow && (glyph.char = '?' || glyph.char = ':') && !endsWord rest)

/-- Whether a plain scalar ends here. Behind white space it ends at a comment, at the mark of a
document, and outside brackets in front of the column that its lines have to reach. -/
def endsPlain (flow : Bool) (margin : Nat) (gap : Gap) : List Glyph → Bool
  | [] => true
  | glyph :: rest =>
    (!gap.isNone && (glyph.char = '#' || (!flow && glyph.column < margin) ||
      atDocumentMark (glyph :: rest))) ||
    (glyph.char = ':' && endsWord rest) ||
    (flow && flowIndicators.contains glyph.char)

/-- Whether a colon stands here that would have to be followed by a blank. -/
def atCrampedColon : List Glyph → Bool
  | colon :: next :: _ =>
    colon.char = ':' && (next.char = '?' || flowIndicators.contains next.char)
  | _ => false

/-- The text of a plain scalar, whether white space behind it crosses a line, and the rest. -/
def readPlain (flow : Bool) (margin : Nat) :
    Gap → List Glyph → Option (List Char × Bool × List Glyph)
  | gap, [] => some ([], gap.crossesLine, [])
  | gap, glyph :: rest =>
    if isSpace glyph.char || isBreak glyph.char then
      if glyph.char = '\t' && gap.crossesLine && glyph.column < margin then none
      else readPlain flow margin (gap.add glyph.char) rest
    else if endsPlain flow margin gap (glyph :: rest) then
      some ([], gap.crossesLine, glyph :: rest)
    else if flow && atCrampedColon (glyph :: rest) then none
    else behind (gap.text ++ [glyph.char]) (readPlain flow margin .none rest)

/-! ## Blocks of lines -/

/-- What becomes of the line breaks at the end of a block. -/
inductive Chomping where
  | strip
  /-- The first one stays. -/
  | clip
  | keep

/-- The chomping of a sign behind the indicator of a block. -/
def Chomping.ofChar? : Char → Option Chomping
  | '-' => some .strip
  | '+' => some .keep
  | _ => none

/-- How a block of lines is written: what becomes of its end, and how much deeper it stands if that
is said. -/
structure BlockHeader where
  chomping : Chomping
  increment : Option Nat

/-- The header of a block behind its indicator, and the rest: a sign and a digit in any order, both
of which may be missing. -/
def BlockHeader.read? : List Glyph → Option (BlockHeader × List Glyph)
  | [] => some (⟨.clip, none⟩, [])
  | first :: rest =>
    match Chomping.ofChar? first.char with
    | some chomping =>
      match rest with
      | [] => some (⟨chomping, none⟩, [])
      | digit :: left =>
        if digit.char = '0' then none
        else if digit.char.isDigit then
          some (⟨chomping, some (Text.digitValue digit.char)⟩, left)
        else some (⟨chomping, none⟩, rest)
    | none =>
      if first.char = '0' then none
      else if first.char.isDigit then
        let increment := some (Text.digitValue first.char)
        match rest with
        | [] => some (⟨.clip, increment⟩, [])
        | sign :: left =>
          match Chomping.ofChar? sign.char with
          | some chomping => some (⟨chomping, increment⟩, left)
          | none => some (⟨.clip, increment⟩, rest)
      else some (⟨.clip, none⟩, first :: rest)

/-- The text behind a line of which nothing but blanks and a comment is left. -/
def finishLine? (text : List Glyph) : Option (List Glyph) :=
  match text.dropWhile fun glyph => isSpace glyph.char with
  | [] => some []
  | glyph :: rest =>
    if isBreak glyph.char then some rest
    else if glyph.char = '#' then some ((rest.dropWhile fun glyph => !isBreak glyph.char).drop 1)
    else none

/-- The deepest column that the first line of a block and the empty lines in front of it reach. -/
def blockColumn? (deepest : Nat) : List Glyph → Option Nat
  | [] => some deepest
  | glyph :: rest =>
    if glyph.char = ' ' then
      if rest.isEmpty then some (max deepest (glyph.column + 1)) else blockColumn? deepest rest
    else if glyph.char = '\t' then none
    else if isBreak glyph.char then blockColumn? (max deepest glyph.column) rest
    else some (max deepest glyph.column)

/-- The lines of a block that have been read. -/
structure BlockLines where
  text : List Char
  /-- The break behind the last line. -/
  first : Option Char
  /-- The breaks of the empty lines after it. -/
  more : List Char

/-- Where in a block a character stands. -/
inductive InBlock where
  | line (startsBlank : Bool)
  /-- In front of a line: whether the last line started with a blank, the break behind it and those
  of empty lines. -/
  | front (startedBlank : Bool) (first : Option Char) (more : List Char)

/-- What stands between two lines of a block. In a folded one a break reads as a blank, or as
nothing in front of empty lines, unless one of the lines starts with a blank. -/
def blockGlue (folded startedBlank startsBlank : Bool) (first : Option Char) (more : List Char) :
    List Char :=
  if folded && first == some '\n' && !startedBlank && !startsBlank then
    if more.isEmpty then [' '] else more
  else first.toList ++ more

/-- The lines of a block that starts at a column, and the rest. -/
def readBlock (folded : Bool) (indent : Nat) :
    InBlock → List Glyph → Option (BlockLines × List Glyph)
  | .line _, [] => some (⟨[], none, []⟩, [])
  | .front _ first more, [] => some (⟨[], first, more⟩, [])
  | .line startsBlank, glyph :: rest =>
    if isBreak glyph.char then
      readBlock folded indent (.front startsBlank (some glyph.char) []) rest
    else do
      let (lines, rest) ← readBlock folded indent (.line startsBlank) rest
      return ({ lines with text := glyph.char :: lines.text }, rest)
  | .front startedBlank first more, glyph :: rest =>
    if isBreak glyph.char then
      readBlock folded indent (.front startedBlank first (more ++ [glyph.char])) rest
    else if glyph.column < indent then
      if glyph.char = ' ' then readBlock folded indent (.front startedBlank first more) rest
      else if glyph.char = '\t' then none
      else some (⟨[], first, more⟩, glyph :: rest)
    else do
      let startsBlank := isSpace glyph.char
      let (lines, rest) ← readBlock folded indent (.line startsBlank) rest
      let glue := blockGlue folded startedBlank startsBlank first more
      return ({ lines with text := glue ++ glyph.char :: lines.text }, rest)

/-- The text of a block with its end chomped. -/
def BlockLines.chomp (lines : BlockLines) : Chomping → List Char
  | .strip => lines.text
  | .clip => lines.text ++ lines.first.toList
  | .keep => lines.text ++ lines.first.toList ++ lines.more

/-- The text of a block behind its indicator, and the rest. Its lines stand at the margin or
deeper. -/
def readBlockScalar? (folded : Bool) (margin : Nat) (text : List Glyph) :
    Option (List Char × List Glyph) := do
  let (header, rest) ← BlockHeader.read? text
  let rest ← finishLine? rest
  let indent ← match header.increment with
    | some increment => some (margin - 1 + increment)
    | none => (blockColumn? 0 rest).map fun column => max column (max margin 1)
  let (lines, rest) ← readBlock folded indent (.front false none []) rest
  return (lines.chomp header.chomping, rest)

end SqlLowering.Yaml
