import SqlLowering.Json.Number

/-!
JSON documents as they are written. The literals of numbers and strings are kept, so that a part of
a document can be passed over without being understood: a number in it may be out of range, a string
may hold half of a pair of 16-bit units, and arrays and objects may nest to any depth.
-/

namespace SqlLowering.Json

/-! ## Strings -/

/-- A part of a string literal: a character, or a 16-bit unit that is written in digits. -/
inductive StringPart where
  | char (c : Char)
  | unit (n : Nat)

/-- Whether a unit is the first half of a pair. -/
def isLeading (unit : Nat) : Bool :=
  0xd800 ≤ unit && unit < 0xdc00

/-- Whether a unit is the second half of a pair. -/
def isTrailing (unit : Nat) : Bool :=
  0xdc00 ≤ unit && unit < 0xe000

/-- The characters of a string literal. The halves of a pair have to stand side by side. -/
def decodeString? : List StringPart → Option (List Char)
  | [] => some []
  | .char c :: rest => do return c :: (← decodeString? rest)
  | .unit first :: .unit second :: rest =>
    if isLeading first then
      if isTrailing second then do
        let c := Char.ofNat (0x10000 + (first - 0xd800) * 0x400 + (second - 0xdc00))
        return c :: (← decodeString? rest)
      else none
    else if isTrailing first then none
    else do return Char.ofNat first :: (← decodeString? (.unit second :: rest))
  | .unit unit :: rest =>
    if isLeading unit || isTrailing unit then none
    else do return Char.ofNat unit :: (← decodeString? rest)

/-! ## Documents -/

/-- A document as it is written. -/
inductive Written where
  | null
  | bool (b : Bool)
  | number (text : NumberText)
  | string (parts : List StringPart)
  | array (items : List Written)
  | object (members : List (List StringPart × Written))

namespace Written

mutual

/-- The document that is written, if its arrays and objects nest at most `depth` deep. -/
def toJson? : Nat → Written → Option Json
  | _, .null => some .null
  | _, .bool b => some (.bool b)
  | _, .number text => text.toJson?
  | _, .string parts => return .string (String.ofList (← decodeString? parts))
  | 0, .array _ | 0, .object _ => none
  | depth + 1, .array items => return .array (← itemsToJson? depth items)
  | depth + 1, .object members => return .object (← membersToJson? depth members)

/-- The documents of items. -/
def itemsToJson? : Nat → List Written → Option (List Json)
  | _, [] => some []
  | depth, item :: rest => do return (← toJson? depth item) :: (← itemsToJson? depth rest)

/-- The members of an object. -/
def membersToJson? : Nat → List (List StringPart × Written) → Option (List (String × Json))
  | _, [] => some []
  | depth, (name, value) :: rest => do
    let name := String.ofList (← decodeString? name)
    return (name, ← toJson? depth value) :: (← membersToJson? depth rest)

end

end Written

end SqlLowering.Json
