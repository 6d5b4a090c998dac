import SqlLowering.Config.Yaml.Scalar

/-!
Tokens of configuration texts. Blocks show by their columns: a token opens a block where it stands
deeper than the block around it, and closes the blocks that it stands in front of. That a scalar or
a collection is a key shows only at the colon behind it, so the token for a key is put in front of
it afterwards.
-/

namespace SqlLowering.Yaml

/-- A token. -/
inductive Token where
  | documentStart
  | documentEnd
  | sequenceBlock
  | mappingBlock
  | blockEnd
  | sequenceOpen
  | sequenceClose
  | mappingOpen
  | mappingClose
  /-- The hyphen in front of an item of a block. -/
  | item
  /-- The comma between brackets. -/
  | comma
  | key
  | value
  | scalar (plain : Bool) (text : String)
deriving DecidableEq

/-- The place where a key may have started. -/
structure KeyStart where
  /-- Whether a key has to start here, because an entry of a block does. -/
  required : Bool
  /-- The number of tokens in front of it. -/
  index : Nat
  line : Nat
  column : Nat

/-- The most characters of a key that is followed by its colon. -/
def keyLimit : Nat := 1024

/-- Whether a key that started in a place cannot go on up to a character. -/
def KeyStart.isStale (start : KeyStart) (glyph : Glyph) : Bool :=
  start.line < glyph.line || start.column + keyLimit < glyph.column

/-- The tokens so far, and what the next one depends on. -/
structure Progress where
  tokens : List Token
  /-- For every open block, from the inside, the first column that is deeper than it. -/
  margins : List Nat
  /-- The place where a key may have started. -/
  start : Option KeyStart
  /-- The same in front of each open bracket, from the inside. -/
  outer : List (Option KeyStart)
  /-- Whether a key may start here. -/
  keyAllowed : Bool

namespace Progress

/-- Before any token. -/
def initial : Progress :=
  ⟨[], [], none, [], true⟩

/-- Whether the place is between brackets. -/
def inFlow (progress : Progress) : Bool :=
  !progress.outer.isEmpty

/-- The first column that is deeper than the innermost block. -/
def margin (progress : Progress) : Nat :=
  progress.margins.headD 0

/-- One more token. -/
def emit (progress : Progress) (token : Token) : Progress :=
  { progress with tokens := progress.tokens ++ [token] }

/-- Permits or forbids a key in the next place. -/
def allowKey (progress : Progress) (allowed : Bool) : Progress :=
  { progress with keyAllowed := allowed }

/-! ## Blocks -/

/-- Opens a block at a column, unless the innermost one is as deep. Its token goes behind the given
number of tokens. -/
def openBlock (progress : Progress) (column index : Nat) (token : Token) : Progress :=
  if !progress.inFlow && progress.margin ≤ column then
    { progress with
      tokens := progress.tokens.insertIdx index token
      margins := (column + 1) :: progress.margins }
  else progress

/-- Closes the blocks whose margins lie behind a column. -/
def closeBlocks (progress : Progress) (column : Nat) : Progress :=
  if progress.inFlow then progress
  else
    let closed := progress.margins.takeWhile (column < ·)
    { progress with
      tokens := progress.tokens ++ closed.map fun _ => .blockEnd
      margins := progress.margins.drop closed.length }

/-! ## Keys -/

/-- Gives up a key that may have started, if it does not have to. -/
def giveUp? (start : Option KeyStart) : Option (Option KeyStart) :=
  match start with
  | some start => if start.required then none else some none
  | none => some none

/-- Gives up the key that may have started last. -/
def dropKey? (progress : Progress) : Option Progress := do
  return { progress with start := ← giveUp? progress.start }

/-- Gives up the keys that cannot go on up to a character. -/
def dropStale? (progress : Progress) (glyph : Glyph) : Option Progress := do
  let check (start : Option KeyStart) :=
    if start.any (·.isStale glyph) then giveUp? start else some start
  return { progress with start := ← check progress.start, outer := ← progress.outer.mapM check }

/-- Remembers that a key may start here, if that is allowed. -/
def startKey? (progress : Progress) (glyph : Glyph) : Option Progress := do
  if progress.keyAllowed then
    let progress ← progress.dropKey?
    let required := !progress.inFlow && progress.margin = glyph.column + 1
    let start := ⟨required, progress.tokens.length, glyph.line, glyph.column⟩
    return { progress with start := some start }
  else return progress

/-! ## Single tokens -/

/-- The mark of a document. -/
def mark? (progress : Progress) (token : Token) : Option Progress := do
  let progress ← (progress.closeBlocks 0).dropKey?
  return (progress.allowKey false).emit token

/-- An opening bracket. -/
def open? (progress : Progress) (glyph : Glyph) (token : Token) : Option Progress := do
  let progress ← progress.startKey? glyph
  return { (progress.allowKey true).emit token with
    start := none, outer := progress.start :: progress.outer }

/-- A closing bracket. -/
def close? (progress : Progress) (token : Token) : Option Progress := do
  let progress ← progress.dropKey?
  let progress := match progress.outer with
    | [] => progress
    | start :: outer => { progress with start := start, outer := outer }
  return (progress.allowKey false).emit token

/-- A comma. -/
def comma? (progress : Progress) : Option Progress := do
  return ((← progress.dropKey?).allowKey true).emit .comma

/-- The hyphen in front of an item. -/
def item? (progress : Progress) (glyph : Glyph) : Option Progress := do
  if !progress.inFlow && !progress.keyAllowed then none
  else
    let progress := progress.openBlock glyph.column progress.tokens.length .sequenceBlock
    return ((← progress.dropKey?).allowKey true).emit .item

/-- The question mark in front of a key. -/
def key? (progress : Progress) (glyph : Glyph) : Option Progress := do
  if !progress.inFlow && !progress.keyAllowed then none
  else
    let progress := progress.openBlock glyph.column progress.tokens.length .mappingBlock
    return ((← progress.dropKey?).allowKey !progress.inFlow).emit .key

/-- The colon in front of a value. What stands in front of it on the line becomes its key. -/
def value? (progress : Progress) (glyph : Glyph) : Option Progress :=
  match progress.start with
  | some start =>
    let progress := { progress with
      tokens := progress.tokens.insertIdx start.index .key, start := none }
    some (((progress.openBlock start.column start.index .mappingBlock).allowKey false).emit .value)
  | none =>
    if !progress.inFlow && !progress.keyAllowed then none
    else
      let progress := progress.openBlock glyph.column progress.tokens.length .mappingBlock
      some ((progress.allowKey !progress.inFlow).emit .value)

/-- A quoted scalar. -/
def quoted? (progress : Progress) (glyph : Glyph) (rest : List Glyph) :
    Option (Progress × List Glyph) := do
  let progress ← progress.startKey? glyph
  let (text, rest) ← readQuoted glyph.char (.text .none) rest
  return ((progress.allowKey false).emit (.scalar false (String.ofList text)), rest)

/-- A plain scalar. -/
def plain? (progress : Progress) (glyph : Glyph) (rest : List Glyph) :
    Option (Progress × List Glyph) := do
  let progress ← progress.startKey? glyph
  let (text, crossesLine, rest) ←
    readPlain progress.inFlow progress.margin .none (glyph :: rest)
  return ((progress.allowKey crossesLine).emit (.scalar true (String.ofList text)), rest)

/-- A block of lines. -/
def block? (progress : Progress) (folded : Bool) (rest : List Glyph) :
    Option (Progress × List Glyph) := do
  let progress ← progress.dropKey?
  let (text, rest) ← readBlockScalar? folded progress.margin rest
  return ((progress.allowKey true).emit (.scalar false (String.ofList text)), rest)

/-- The token that starts with a character, and the text behind it. -/
def next? (progress : Progress) (glyph : Glyph) (rest : List Glyph) :
    Option (Progress × List Glyph) := do
  if atDocumentMark (glyph :: rest) then
    let token := if glyph.char = '-' then Token.documentStart else .documentEnd
    return (← progress.mark? token, rest.drop 2)
  else
    let endsHere := endsWord rest
    let flow := progress.inFlow
    match glyph.char with
    | '[' => return (← progress.open? glyph .sequenceOpen, rest)
    | '\x7b' => return (← progress.open? glyph .mappingOpen, rest)
    | ']' => return (← progress.close? .sequenceClose, rest)
    | '\x7d' => return (← progress.close? .mappingClose, rest)
    | ',' => return (← progress.comma?, rest)
    | '\x27' | '"' => progress.quoted? glyph rest
    | c =>
      if c = '-' && endsHere then return (← progress.item? glyph, rest)
      else if c = '?' && (flow || endsHere) then return (← progress.key? glyph, rest)
      else if c = ':' && (flow || endsHere) then return (← progress.value? glyph, rest)
      else if (c = '|' || c = '>') && !flow then progress.block? (c = '>') rest
      else if startsPlain flow (glyph :: rest) then progress.plain? glyph rest
      else none

end Progress

/-! ## Texts -/

/-- The text from the next token on, and whether a key may start there. A tab is passed over only
where no key may start; a mark of the byte order may stand at the start of a line. -/
def skipToToken (flow : Bool) : (inComment keyAllowed : Bool) → List Glyph → Bool × List Glyph
  | _, keyAllowed, [] => (keyAllowed, [])
  | inComment, keyAllowed, glyph :: rest =>
    if isBreak glyph.char then skipToToken flow false (keyAllowed || !flow) rest
    else if inComment then skipToToken flow true keyAllowed rest
    else if glyph.char = ' ' || (glyph.char = '\t' && (flow || !keyAllowed)) then
      skipToToken flow false keyAllowed rest
    else if glyph.char = '#' then skipToToken flow true keyAllowed rest
    else if glyph.char = '\ufeff' && glyph.column = 0 then skipToToken flow false keyAllowed rest
    else (keyAllowed, glyph :: rest)

/-- The tokens of a text behind those so far. Every token takes at least one character, so that one
more than the length of the text is enough fuel. -/
def readTokens : Nat → Progress → List Glyph → Option (List Token)
  | 0, _, _ => none
  | fuel + 1, progress, text =>
    match skipToToken progress.inFlow false progress.keyAllowed text with
    | (_, []) => do return (← (progress.closeBlocks 0).dropKey?).tokens
    | (keyAllowed, glyph :: rest) => do
      let progress ← (progress.allowKey keyAllowed).dropStale? glyph
      let (progress, rest) ← (progress.closeBlocks (glyph.column + 1)).next? glyph rest
      readTokens fuel progress rest

/-- The tokens of a text. -/
def tokens? (text : String) : Option (List Token) := do
  let glyphs ← glyphs? text
  readTokens (glyphs.length + 1) .initial glyphs

end SqlLowering.Yaml
