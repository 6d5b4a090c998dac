import SqlLowering.Text.Digits

/-!
Universally unique identifiers: thirty-two hexadecimal digits. They are written in five groups with
hyphens between, in lower case, and are read in that form, without the hyphens, between braces, or
after `urn:uuid:`, in any letter case.
-/

namespace SqlLowering

/-- An identifier, by its hexadecimal digits. -/
structure Uuid where
  digits : List (Fin 16)
  length_digits : digits.length = 32
deriving DecidableEq

namespace Uuid

/-- The identifier of as many digits as there must be. -/
def ofDigits? (digits : List (Fin 16)) : Option Uuid :=
  if h : digits.length = 32 then some ⟨digits, h⟩ else none

/-- Identifiers in the order of their digits. -/
def compare (a b : Uuid) : Ordering :=
  List.compareLex (fun x y => Ord.compare x.val y.val) a.digits b.digits

/-- The identifier in groups of eight, four, four, four and twelve digits. -/
def toString (u : Uuid) : String :=
  let chars := u.digits.map Text.hexDigit
  String.ofList
    (chars.take 8 ++ '-' :: (chars.drop 8).take 4 ++ '-' :: (chars.drop 12).take 4 ++
      '-' :: (chars.drop 16).take 4 ++ '-' :: chars.drop 20)

instance : ToString Uuid := ⟨Uuid.toString⟩

/-- The characters of a text in five groups, without the hyphens between them. -/
def withoutHyphens? (text : List Char) : Option (List Char) :=
  if text.length = 36 ∧ text[8]? = some '-' ∧ text[13]? = some '-' ∧ text[18]? = some '-' ∧
      text[23]? = some '-' then
    some (text.take 8 ++ (text.drop 9).take 4 ++ (text.drop 14).take 4 ++ (text.drop 19).take 4 ++
      text.drop 24)
  else
    none

/-- The hexadecimal digits of a text in one of the forms. -/
def plainDigits? (text : List Char) : Option (List Char) :=
  if text.length = 32 then some text
  else if text.length = 38 ∧ text.head? = some '\x7b' ∧ text.getLast? = some '\x7d' then
    withoutHyphens? ((text.drop 1).take 36)
  else if text.length = 45 ∧ String.ofList ((text.take 9).map Char.toLower) = "urn:uuid:" then
    withoutHyphens? (text.drop 9)
  else withoutHyphens? text

/-- The identifier that a text denotes. -/
def ofString? (text : String) : Option Uuid := do
  let chars ← plainDigits? text.toList
  ofDigits? (← chars.mapM Text.hexDigit?)

end Uuid

end SqlLowering
