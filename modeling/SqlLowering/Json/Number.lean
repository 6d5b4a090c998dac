import SqlLowering.Json.Basic
import SqlLowering.Binary64
import SqlLowering.Text.Digits

/-!
Number literals of JSON. A literal with a fraction or an exponent, or an integer beyond 64 bits, is
read as a floating-point number: its digits are gathered into a significand of 64 bits, as many as
fit, and the significand is scaled by a power of ten with one rounding.
-/

namespace SqlLowering.Json

/-- A number literal in its parts. -/
structure NumberText where
  negative : Bool
  whole : List Char
  fraction : Option (List Char)
  /-- Sign and digits of the exponent. -/
  exponent : Option (Bool × List Char)

namespace NumberText

/-- At least one digit, and the rest. -/
def digits? (text : List Char) : Option (List Char × List Char) :=
  match Text.takeDigits text.length text with
  | ([], _) => none
  | found => some found

/-- The whole part: a single zero, or digits that do not start with one. -/
def whole? : List Char → Option (List Char × List Char)
  | '0' :: c :: rest => if c.isDigit then none else some (['0'], c :: rest)
  | text => digits? text

/-- The part after a point, if there is one. -/
def fraction? : List Char → Option (Option (List Char) × List Char)
  | '.' :: rest => do
    let (digits, rest) ← digits? rest
    return (some digits, rest)
  | text => some (none, text)

/-- The exponent with its sign, if there is one. -/
def exponent? : List Char → Option (Option (Bool × List Char) × List Char)
  | c :: rest =>
    if c = 'e' ∨ c = 'E' then do
      let (negative, rest) := match rest with
        | '-' :: rest => (true, rest)
        | '+' :: rest => (false, rest)
        | rest => (false, rest)
      let (digits, rest) ← digits? rest
      return (some (negative, digits), rest)
    else
      some (none, c :: rest)
  | [] => some (none, [])

/-- The literal at the start of a text, and the rest. -/
def scan? (text : List Char) : Option (NumberText × List Char) := do
  let (negative, rest) := match text with
    | '-' :: rest => (true, rest)
    | rest => (false, rest)
  let (whole, rest) ← whole? rest
  let (fraction, rest) ← fraction? rest
  let (exponent, rest) ← exponent? rest
  return (⟨negative, whole, fraction, exponent⟩, rest)

/-- The greatest significand. -/
def significandLimit : Nat := Nat.pow 2 64 - 1

/-- Significand and decimal exponent after the digits before the point. A digit that no longer fits,
and every digit after it, only raises the exponent. -/
def gatherWhole : Nat → List Char → Nat × Int
  | significand, [] => (significand, 0)
  | significand, c :: rest =>
    let next := 10 * significand + Text.digitValue c
    if next ≤ significandLimit then gatherWhole next rest
    else (significand, rest.length + 1)

/-- Significand and decimal exponent after the digits behind the point. A digit that no longer fits,
and every digit after it, is dropped. -/
def gatherFraction : Nat → Int → List Char → Nat × Int
  | significand, exponent, [] => (significand, exponent)
  | significand, exponent, c :: rest =>
    let next := 10 * significand + Text.digitValue c
    if next ≤ significandLimit then gatherFraction next (exponent - 1) rest
    else (significand, exponent)

/-- The greatest power of ten among the floating-point numbers. -/
def greatestPower : Nat := 308

/-- The number `x · 10 ^ exponent`, unless that is out of range. The exponent of a small number is
brought up in steps of the greatest power; two steps make any significand vanish. -/
def scale? : Nat → Float → Int → Option Float
  | fuel, x, exponent =>
    if exponent.natAbs ≤ greatestPower then
      let power := Float.ofScientific 1 false exponent.natAbs
      if 0 ≤ exponent then
        let scaled := x * power
        if scaled.isInf then none else some scaled
      else
        some (x / power)
    else if x == 0.0 then some x
    else if 0 ≤ exponent then none
    else match fuel with
      | 0 => some 0.0
      | fuel + 1 =>
        scale? fuel (x / Float.ofScientific 1 false greatestPower) (exponent + greatestPower)

/-- Exponents beyond this bound are not added up. -/
def exponentLimit : Nat := Nat.pow 2 31 - 1

/-- The size of a literal as a floating-point number. -/
def size? (text : NumberText) : Option Float :=
  let (significand, exponent) := gatherWhole 0 text.whole
  let (significand, exponent) := gatherFraction significand exponent (text.fraction.getD [])
  let x := significand.toUInt64.toFloat
  match text.exponent with
  | none => scale? 4 x exponent
  | some (negative, digits) =>
    let size := Text.digitsValue digits
    if exponentLimit < size then
      if significand = 0 ∨ negative then some 0.0 else none
    else
      scale? 4 x (if negative then exponent - size else exponent + size)

/-- The number that a literal denotes. A negative zero is a floating-point number. -/
def toJson? (text : NumberText) : Option Json :=
  let size := Text.digitsValue text.whole
  match text.fraction, text.exponent, text.negative with
  | none, none, false =>
    if size < Nat.pow 2 64 then some (.int size) else text.size?.map .float
  | none, none, true =>
    if 0 < size ∧ size ≤ Nat.pow 2 63 then some (.int (-size))
    else text.size?.map fun x => .float (-x)
  | _, _, false => text.size?.map .float
  | _, _, true => text.size?.map fun x => .float (-x)

end NumberText

end SqlLowering.Json
