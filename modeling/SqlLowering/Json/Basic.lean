import SqlLowering.Binary64

/-!
JSON documents. A number is an integer when its literal is one and fits in 64 bits, signed or
unsigned, and a floating-point number otherwise. An object keeps its members as they were written,
repeated names included; each reader says what a repeated name means to it.
-/

namespace SqlLowering

/-- A JSON document. -/
inductive Json where
  | null
  | bool (b : Bool)
  | int (i : Int)
  | float (x : Float)
  | string (s : String)
  | array (items : List Json)
  | object (members : List (String × Json))

namespace Json

/-- The name of the kind of a document, in messages. -/
def kindName : Json → String
  | .null => "null"
  | .bool _ => "bool"
  | .int _ | .float _ => "number"
  | .string _ => "string"
  | .array _ => "array"
  | .object _ => "object"

mutual

/-- How deeply arrays and objects nest. -/
def height : Json → Nat
  | .array items => heightItems items + 1
  | .object members => heightMembers members + 1
  | _ => 0

/-- The greatest height among items. -/
def heightItems : List Json → Nat
  | [] => 0
  | item :: rest => max item.height (heightItems rest)

/-- The greatest height among members. -/
def heightMembers : List (String × Json) → Nat
  | [] => 0
  | (_, value) :: rest => max value.height (heightMembers rest)

end

/-! ## Members of an object -/

/-- The values of all members of one name. -/
def named (name : String) (members : List (String × Json)) : List Json :=
  members.filterMap fun (other, value) => if other = name then some value else none

/-- The value of a member that has to be there, once. -/
def member? (name : String) (members : List (String × Json)) : Option Json :=
  match named name members with
  | [value] => some value
  | _ => none

/-- The value of a member that may be missing, which then reads as null. -/
def memberOrNull? (name : String) (members : List (String × Json)) : Option Json :=
  match named name members with
  | [] => some .null
  | [value] => some value
  | _ => none

/-- What a member reads as, or `default` when it is missing. -/
def memberOr? {α : Type} (default : α) (read : Json → Option α) (name : String)
    (members : List (String × Json)) : Option α :=
  match named name members with
  | [] => some default
  | [value] => read value
  | _ => none

/-- The value of the last member of a name. -/
def lastMember? (name : String) (members : List (String × Json)) : Option Json :=
  (named name members).getLast?

/-! ## Scalars -/

/-- The text of a string. -/
def string? : Json → Option String
  | .string s => some s
  | _ => none

/-- The truth value of a boolean. -/
def bool? : Json → Option Bool
  | .bool b => some b
  | _ => none

/-- A natural number below a bound. -/
def natBelow? (bound : Nat) : Json → Option Nat
  | .int i => if 0 ≤ i ∧ i < bound then some i.toNat else none
  | _ => none

/-- A byte. -/
def byte? (json : Json) : Option UInt8 :=
  (json.natBelow? 256).map (·.toUInt8)

/-- An integer in the range of 64 bits with sign. -/
def int64? : Json → Option Int64
  | .int i =>
    if Int64.minValue.toInt ≤ i ∧ i ≤ Int64.maxValue.toInt then some (Int64.ofInt i) else none
  | _ => none

/-- A floating-point number from any number. -/
def float? : Json → Option Float
  | .float x => some x
  | .int i => some (Binary64.ofInt i)
  | _ => none

/-- Whether a document says nothing more about the name that it belongs to: null, and an empty
object where that may stand for null. -/
def saysNothing (emptyAllowed : Bool) : Json → Bool
  | .null => true
  | .object [] => emptyAllowed
  | _ => false

/-- The items of an array. -/
def items? : Json → Option (List Json)
  | .array items => some items
  | _ => none

/-- The document itself, or what it holds first when it is an array, all the way down. An array
without items holds nothing. -/
def innermostFirst : Json → Json
  | .array [] => .null
  | .array (first :: _) => first.innermostFirst
  | other => other

end Json

end SqlLowering
