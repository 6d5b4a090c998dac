import SqlLowering.Value.Basic
import SqlLowering.Json.Basic

/-!
Values as JSON with their kinds. A value is an object with one member named for its kind; the
missing value is the bare name. Bytes are numbers, days, moments and identifiers are text, and a
record is an array of pairs of a name and a value. The missing value may also be an object with that
name as its only member, which says nothing more: with null, or inside a node of a query with an
empty object.
-/

namespace SqlLowering

open Calendar

namespace Value

/-- A floating-point number as a document; what is not finite has none and is null. -/
def floatToJson (x : Float) : Json :=
  if x.isFinite then .float x else .null

mutual

/-- The document of a value. -/
def toJson : Value → Json
  | .null => .string "null"
  | .bool b => .object [("bool", .bool b)]
  | .int i => .object [("int", .int i.toInt)]
  | .float x => .object [("float", floatToJson x)]
  | .string s => .object [("string", .string s)]
  | .bytes content => .object [("bytes", .array (content.map fun b => .int b.toNat))]
  | .date d => .object [("date", .string d.toString)]
  | .timestamp t => .object [("timestamp", .string t.toString)]
  | .uuid u => .object [("uuid", .string u.toString)]
  | .array items => .object [("array", .array (itemsToJson items))]
  | .record fields => .object [("record", .array (fieldsToJson fields))]

/-- The documents of items. -/
def itemsToJson : List Value → List Json
  | [] => []
  | item :: rest => item.toJson :: itemsToJson rest

/-- The documents of fields. -/
def fieldsToJson : List (String × Value) → List Json
  | [] => []
  | (name, value) :: rest => .array [.string name, value.toJson] :: fieldsToJson rest

end

mutual

/-- The value that a document with its kind denotes, inside a node or on its own. -/
def decode (inner : Bool) : Json → Option Value
  | .string "null" => some .null
  | .object [("null", json)] => if json.saysNothing inner then some .null else none
  | .object [("bool", .bool b)] => some (.bool b)
  | .object [("int", json)] => json.int64?.map .int
  | .object [("float", json)] => json.float?.map .float
  | .object [("string", .string s)] => some (.string s)
  | .object [("bytes", .array items)] => (items.mapM Json.byte?).map .bytes
  | .object [("date", .string s)] => (Date.ofString? s).map .date
  | .object [("timestamp", .string s)] => (Timestamp.ofWritten? s).map .timestamp
  | .object [("uuid", .string s)] => (Uuid.ofString? s).map .uuid
  | .object [("array", .array items)] => (decodeItems inner items).map .array
  | .object [("record", .array items)] => (decodeFields inner items).map .record
  | _ => none

/-- The values of items. -/
def decodeItems (inner : Bool) : List Json → Option (List Value)
  | [] => some []
  | item :: rest => do return (← decode inner item) :: (← decodeItems inner rest)

/-- The fields of pairs. -/
def decodeFields (inner : Bool) : List Json → Option (List (String × Value))
  | [] => some []
  | .array [.string name, json] :: rest => do
    return (name, ← decode inner json) :: (← decodeFields inner rest)
  | _ => none

end

/-- The value that a document with its kind denotes. -/
def ofTagged? : Json → Option Value :=
  decode false

/-- The value that a document inside a node denotes. -/
def ofPart? : Json → Option Value :=
  decode true

end Value

namespace Inputs

/-- The document of inputs: an object in order of their names. -/
def toJson (inputs : Inputs) : Json :=
  .object (inputs.entries.map fun (name, value) => (name, value.toJson))

/-- The inputs that a document denotes; of a repeated name the last one counts. -/
def ofJson? : Json → Option Inputs
  | .object members => do
    let entries ← members.mapM fun (name, json) => do return (name, ← Value.ofTagged? json)
    return NameMap.ofList entries
  | _ => none

end Inputs

end SqlLowering
