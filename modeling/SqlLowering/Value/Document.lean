import SqlLowering.Value.Coerce
import SqlLowering.Json.Basic

/-!
Values in plain JSON documents, with no mark of their kinds: decoded at a wanted type, or read as
they stand.
-/

namespace SqlLowering.Value

/-- The integer of a document, where a value of `type` is wanted. -/
def integerOfJson (type : DataType) (json : Json) : Except ValueError Int64 :=
  match json.int64? with
  | some i => .ok i
  | none => .error (.typeMismatch type json.kindName)

mutual

/-- The value of a type that a document denotes. Fields are found by name, of a repeated name the
last member counts, and missing fields are null. Where a record is wanted, an array stands for its
first item and an empty one for null. -/
def ofJson : DataType → Json → Except ValueError Value
  | _, .null => .ok .null
  | .bool, .bool b => .ok (.bool b)
  | .bool, .int i => return .bool ((← integerOfJson .bool (.int i)) != 0)
  | .int16, .int i => return .int (← integerOfJson .int16 (.int i))
  | .int32, .int i => return .int (← integerOfJson .int32 (.int i))
  | .int64, .int i => return .int (← integerOfJson .int64 (.int i))
  | .float32, .int i | .float64, .int i => .ok (.float (Binary64.ofInt i))
  | .float32, .float x | .float64, .float x => .ok (.float x)
  | .string, .string s => .ok (.string s)
  | .blob, .array items =>
    match items.mapM Json.byte? with
    | some content => .ok (.bytes content)
    | none => .error (.typeMismatch .blob "array")
  | .date, .string s => readDate s
  | .timestamp, .string s => readTimestamp s
  | .uuid, .string s => readUuid s
  | .record fields, json =>
    match json.innermostFirst with
    | .null => .ok .null
    | .object members => return .record (← fieldsOfJson fields members)
    | other => .error (.typeMismatch (.record fields) other.kindName)
  | .collection element, .array items => return .array (← items.mapM (ofJson element))
  | type, json => .error (.typeMismatch type json.kindName)

/-- The values of fields among the members of an object. -/
def fieldsOfJson : List FieldType → List (String × Json) →
    Except ValueError (List (String × Value))
  | [], _ => .ok []
  | ⟨name, type, _⟩ :: rest, members => do
    let value ← match Json.lastMember? name members with
      | some json => ofJson type json
      | none => .ok .null
    return (name, value) :: (← fieldsOfJson rest members)

end

mutual

/-- The value that a document denotes by itself: a number is an integer if it can be, and an object
is a record with its fields in order of their names, of a repeated name the last one kept. -/
def plain : Json → Value
  | .null => .null
  | .bool b => .bool b
  | .int i =>
    match (Json.int i).int64? with
    | some i => .int i
    | none => .float (Binary64.ofInt i)
  | .float x => .float x
  | .string s => .string s
  | .array items => .array (plainItems items)
  | .object members => .record (plainMembers members [])

/-- The values of items. -/
def plainItems : List Json → List Value
  | [] => []
  | item :: rest => plain item :: plainItems rest

/-- Fields with the values of members put among them. -/
def plainMembers : List (String × Json) → List (String × Value) → List (String × Value)
  | [], fields => fields
  | (name, json) :: rest, fields => plainMembers rest (putEntry name (plain json) fields)

end

end SqlLowering.Value
