import SqlLowering.DataType.Basic
import SqlLowering.Json.Basic

/-!
Types as JSON. A scalar type is its name, a record or a collection an object with one member named
for it. A name may also be the only member of an object that says nothing more: with null, or inside
a node of a query with an empty object.
-/

namespace SqlLowering

namespace DataType

mutual

/-- The document of a type. -/
def toJson : DataType → Json
  | .bool => .string "Bool"
  | .int16 => .string "Int16"
  | .int32 => .string "Int32"
  | .int64 => .string "Int64"
  | .float32 => .string "Float32"
  | .float64 => .string "Float64"
  | .string => .string "String"
  | .blob => .string "Blob"
  | .date => .string "Date"
  | .timestamp => .string "Timestamp"
  | .uuid => .string "Uuid"
  | .record fields => .object [("Record", .array (fieldsToJson fields))]
  | .collection element => .object [("Collection", element.toJson)]

/-- The documents of the fields of a record. -/
def fieldsToJson : List FieldType → List Json
  | [] => []
  | ⟨name, type, nullable⟩ :: rest =>
    .object [("name", .string name), ("data_type", type.toJson), ("nullable", .bool nullable)] ::
      fieldsToJson rest

end

/-- The scalar type of a name. -/
def ofName? : String → Option DataType
  | "Bool" => some .bool
  | "Int16" => some .int16
  | "Int32" => some .int32
  | "Int64" => some .int64
  | "Float32" => some .float32
  | "Float64" => some .float64
  | "String" => some .string
  | "Blob" => some .blob
  | "Date" => some .date
  | "Timestamp" => some .timestamp
  | "Uuid" => some .uuid
  | _ => none

mutual

/-- The type of a document that nests at most as deep as the fuel, inside a node or on its own. -/
def decode (inner : Bool) : Nat → Json → Option DataType
  | _, .string name => ofName? name
  | fuel + 1, .object [("Record", .array items)] =>
    return .record (← items.mapM (decodeField inner fuel))
  | fuel + 1, .object [("Collection", element)] => return .collection (← decode inner fuel element)
  | _, .object [(name, json)] => if json.saysNothing inner then ofName? name else none
  | _, _ => none

/-- The field of a document. -/
def decodeField (inner : Bool) : Nat → Json → Option FieldType
  | fuel + 1, .object members => do
    let name ← (← Json.member? "name" members).string?
    let type ← decode inner fuel (← Json.member? "data_type" members)
    let nullable ← Json.memberOr? false Json.bool? "nullable" members
    return ⟨name, type, nullable⟩
  | _, _ => none

end

/-- The type that a document denotes. -/
def ofJson? (json : Json) : Option DataType :=
  decode false json.height json

/-- The type that a document inside a node denotes. -/
def ofPart? (json : Json) : Option DataType :=
  decode true json.height json

end DataType

/-- The document of a field. -/
def FieldType.toJson (field : FieldType) : Json :=
  .object [("name", .string field.name), ("data_type", field.type.toJson),
    ("nullable", .bool field.nullable)]

end SqlLowering
