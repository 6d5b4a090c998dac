import SqlLowering.Value.Basic
import SqlLowering.Binary64

/-!
Equality and order of values. Values of one kind are ordered by it, integers and floating-point
numbers among each other by size; arrays and records can only be equal.
-/

namespace SqlLowering.Value

mutual

/-- Whether two values are the same, part by part. Floating-point numbers are compared by size, so
a number that is not one differs from itself. -/
def same : Value → Value → Bool
  | .null, .null => true
  | .bool a, .bool b => a == b
  | .int a, .int b => a == b
  | .float a, .float b => a == b
  | .string a, .string b => a == b
  | .bytes a, .bytes b => a == b
  | .date a, .date b => a == b
  | .timestamp a, .timestamp b => a == b
  | .uuid a, .uuid b => a == b
  | .array a, .array b => sameItems a b
  | .record a, .record b => sameFields a b
  | _, _ => false

/-- Whether two lists of items are the same. -/
def sameItems : List Value → List Value → Bool
  | [], [] => true
  | a :: restA, b :: restB => a.same b && sameItems restA restB
  | _, _ => false

/-- Whether two lists of fields are the same, names included. -/
def sameFields : List (String × Value) → List (String × Value) → Bool
  | [], [] => true
  | (m, a) :: restA, (n, b) :: restB => m == n && a.same b && sameFields restA restB
  | _, _ => false

end

/-- The size of a number. -/
def float? : Value → Option Float
  | .int i => some (Binary64.ofInt i.toInt)
  | .float x => some x
  | _ => none

/-- The order of two floating-point numbers, if both are numbers. -/
def compareFloats (a b : Float) : Option Ordering :=
  if a < b then some .lt
  else if a == b then some .eq
  else if b < a then some .gt
  else none

/-- The order of two values, where there is one. -/
def compare? : Value → Value → Option Ordering
  | .null, .null => some .eq
  | .int a, .int b => some (compare a b)
  | .string a, .string b => some (compare a b)
  | .bool a, .bool b => some (compare a b)
  | .date a, .date b => some (a.compare b)
  | .timestamp a, .timestamp b => some (a.compare b)
  | .uuid a, .uuid b => some (a.compare b)
  | .bytes a, .bytes b => some (List.compareLex (fun x y => compare x y) a b)
  | a, b =>
    match a.float?, b.float? with
    | some x, some y => compareFloats x y
    | _, _ => if a.same b then some .eq else none

end SqlLowering.Value
