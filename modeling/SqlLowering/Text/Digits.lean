/-!
Decimal and hexadecimal digits. Only the ASCII digits count.
-/

namespace SqlLowering.Text

/-- The value of a decimal digit. -/
def digitValue (c : Char) : Nat :=
  c.toNat - '0'.toNat

/-- The number that a row of decimal digits denotes. -/
def digitsValue (digits : List Char) : Nat :=
  digits.foldl (fun n c => 10 * n + digitValue c) 0

/-- The decimal digits at the start of a text, at most `limit` of them, and the rest. -/
def takeDigits : Nat → List Char → List Char × List Char
  | limit + 1, c :: rest =>
    if c.isDigit then
      let (digits, rest) := takeDigits limit rest
      (c :: digits, rest)
    else
      ([], c :: rest)
  | _, rest => ([], rest)

/-- A number in decimal, with zeros in front up to `width` digits. -/
def padded (width n : Nat) : String :=
  let digits := Nat.toDigits 10 n
  String.ofList (List.replicate (width - digits.length) '0' ++ digits)

/-- The value of a hexadecimal digit in either letter case. -/
def hexDigit? (c : Char) : Option (Fin 16) :=
  if '0' ≤ c ∧ c ≤ '9' then some (Fin.ofNat 16 (c.toNat - '0'.toNat))
  else if 'a' ≤ c ∧ c ≤ 'f' then some (Fin.ofNat 16 (c.toNat - 'a'.toNat + 10))
  else if 'A' ≤ c ∧ c ≤ 'F' then some (Fin.ofNat 16 (c.toNat - 'A'.toNat + 10))
  else none

/-- The lower-case hexadecimal digit of a value. -/
def hexDigit (d : Fin 16) : Char :=
  Nat.digitChar d.val

end SqlLowering.Text
