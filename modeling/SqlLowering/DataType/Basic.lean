import SqlLowering.Text.Shown

/-!
Static types of the expressions of a query: scalars, records of named fields, and collections.
-/

namespace SqlLowering

mutual

/-- A static type. -/
inductive DataType where
  | bool
  | int16
  | int32
  | int64
  | float32
  | float64
  | string
  | blob
  | date
  | timestamp
  | uuid
  | record (fields : List FieldType)
  | collection (element : DataType)

/-- A field of a record type. -/
structure FieldType where
  name : String
  type : DataType
  nullable : Bool

end

namespace DataType

/-- Whether a value of the type travels as one parameter or one column. -/
def isScalar : DataType → Bool
  | .record _ | .collection _ => false
  | _ => true

/-- Whether the type is the one of truth values. -/
def isBoolean : DataType → Bool
  | .bool => true
  | _ => false

/-- Whether the type is one of numbers. -/
def isNumeric : DataType → Bool
  | .int16 | .int32 | .int64 | .float32 | .float64 => true
  | _ => false

/-- The type of the elements of a collection. -/
def element? : DataType → Option DataType
  | .collection element => some element
  | _ => none

/-- The first field of a record with a name. -/
def field? (name : String) : DataType → Option FieldType
  | .record fields => fields.find? fun field => field.name = name
  | _ => none

mutual

/-- A type as messages show it. -/
def describe : DataType → String
  | .bool => "Bool"
  | .int16 => "Int16"
  | .int32 => "Int32"
  | .int64 => "Int64"
  | .float32 => "Float32"
  | .float64 => "Float64"
  | .string => "String"
  | .blob => "Blob"
  | .date => "Date"
  | .timestamp => "Timestamp"
  | .uuid => "Uuid"
  | .record fields => "Record([" ++ ", ".intercalate (describeFields fields) ++ "])"
  | .collection element => "Collection(" ++ element.describe ++ ")"

/-- The fields of a record type as messages show them. -/
def describeFields : List FieldType → List String
  | [] => []
  | ⟨name, type, nullable⟩ :: rest =>
    ("FieldType \x7b name: " ++ Text.literal name ++ ", data_type: " ++ type.describe ++
      ", nullable: " ++ (if nullable then "true" else "false") ++ " \x7d") :: describeFields rest

end

end DataType

end SqlLowering
