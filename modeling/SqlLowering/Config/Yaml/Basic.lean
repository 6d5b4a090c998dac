import SqlLowering.Text.Digits

/-!
Configuration documents as trees of scalars, sequences and mappings, and what the entries of a
mapping read as.
-/

namespace SqlLowering

/-- A configuration document. -/
inductive Yaml where
  /-- A text; it may denote more than a text if it is plain, that is without quotes. -/
  | scalar (plain : Bool) (text : String)
  | sequence (items : List Yaml)
  | mapping (entries : List (Yaml × Yaml))

namespace Yaml

/-- What stands where nothing is written. -/
def empty : Yaml :=
  .scalar true ""

/-- The text of a scalar. -/
def text? : Yaml → Option String
  | .scalar _ text => some text
  | _ => none

/-! ## Numbers -/

/-- The digits of a number with its base: behind a mark for the base, or decimal without zeros in
front. -/
def radix? : List Char → Option (Nat × List Char)
  | '0' :: 'x' :: digits => some (16, digits)
  | '0' :: 'o' :: digits => some (8, digits)
  | '0' :: 'b' :: digits => some (2, digits)
  | '0' :: _ :: _ => none
  | digits => some (10, digits)

/-- The number that digits denote to a base. -/
def digitsToBase? (base : Nat) (digits : List Char) : Option Nat := do
  if digits.isEmpty then none
  else digits.foldlM (fun n c => do
    let d ← Text.hexDigit? c
    if d.val < base then some (base * n + d.val) else none) 0

/-- The natural number that a plain scalar denotes. -/
def nat? : Yaml → Option Nat
  | .scalar true text =>
    let unsigned := match text.toList with
      | '+' :: rest => rest
      | chars => chars
    (radix? unsigned).bind fun (base, digits) => digitsToBase? base digits
  | _ => none

/-! ## Entries -/

/-- The entries of a mapping whose keys are scalars; where nothing is written there are none. -/
def entries? : Yaml → Option (List (String × Yaml))
  | .mapping entries => entries.mapM fun (key, value) => return (← key.text?, value)
  | .scalar true "" => some []
  | _ => none

/-- What an entry reads as, or `default` when it is missing. An entry must not be repeated. -/
def entryOr? {α : Type} (default : α) (read : Yaml → Option α) (name : String)
    (entries : List (String × Yaml)) : Option α :=
  match entries.filter fun entry => entry.1 = name with
  | [] => some default
  | [(_, value)] => read value
  | _ => none

end Yaml

end SqlLowering
