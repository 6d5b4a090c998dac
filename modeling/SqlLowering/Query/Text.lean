import SqlLowering.Json.Parser
import SqlLowering.Query.Decode

/-!
Queries from JSON text. Of a select and of its ordering only the members that belong to them are
read; any other is passed over as it is written, whatever numbers and strings it holds and however
deep it nests. All that stands inside a node is read in full.
-/

namespace SqlLowering

open Json

namespace Json.Written

mutual

/-- The document of an ordering, without the members that do not belong to it. -/
def orderingToJson? : Nat → Written → Option Json
  | 0, .object _ => none
  | depth + 1, .object members => return .object (← orderingMembers? depth members)
  | depth, other => other.toJson? depth

/-- The members that belong to an ordering. -/
def orderingMembers? : Nat → List (List StringPart × Written) → Option (List (String × Json))
  | _, [] => some []
  | depth, (name, value) :: rest => do
    let name := String.ofList (← decodeString? name)
    let members ← orderingMembers? depth rest
    match name with
    | "expr" | "descending" => return (name, ← value.toJson? depth) :: members
    | "previous" => return (name, ← value.orderingToJson? depth) :: members
    | _ => return members

end

/-- The members that belong to a select. -/
def selectMembers? (depth : Nat) :
    List (List StringPart × Written) → Option (List (String × Json))
  | [] => some []
  | (name, value) :: rest => do
    let name := String.ofList (← decodeString? name)
    let members ← selectMembers? depth rest
    match name with
    | "projection" | "table" | "predicate" | "grouping" | "offset" | "limit" | "distinct" =>
      return (name, ← value.toJson? depth) :: members
    | "ordering" => return (name, ← value.orderingToJson? depth) :: members
    | _ => return members

/-- The document of a select, without the members that do not belong to it. -/
def selectToJson? : Nat → Written → Option Json
  | depth + 1, .object members => return .object (← selectMembers? depth members)
  | _, _ => none

end Json.Written

/-- The select that the whole of a text denotes. -/
def Select.parse? (text : String) : Option Select := do
  let written ← Written.parse? text
  Select.ofJson? (← written.selectToJson? depthLimit)

end SqlLowering
