import SqlLowering.Calendar.Timestamp
import SqlLowering.DataType.Basic
import SqlLowering.Decimal.Style
import SqlLowering.NameMap
import SqlLowering.Uuid

/-!
Values: constants of a query, bound parameters, columns of a row and results.
-/

namespace SqlLowering

open Calendar

/-- A value. Integers have 64 bits with sign. -/
inductive Value where
  | null
  | bool (b : Bool)
  | int (i : Int64)
  | float (x : Float)
  | string (s : String)
  | bytes (content : List UInt8)
  | date (d : Date)
  | timestamp (t : Timestamp)
  | uuid (u : Uuid)
  | array (items : List Value)
  | record (fields : List (String × Value))

/-- The values of the inputs that a query reads, by name. -/
abbrev Inputs := NameMap Value

/-- What sort of value a value is. -/
inductive Kind where
  | null
  | bool
  | int
  | float
  | string
  | bytes
  | date
  | timestamp
  | uuid
  | array
  | record
deriving DecidableEq, Repr

/-- The name of a kind, in messages. -/
def Kind.name : Kind → String
  | .null => "null"
  | .bool => "bool"
  | .int => "int"
  | .float => "float"
  | .string => "string"
  | .bytes => "bytes"
  | .date => "date"
  | .timestamp => "timestamp"
  | .uuid => "uuid"
  | .array => "array"
  | .record => "record"

namespace Value

/-- The kind of a value. -/
def kind : Value → Kind
  | .null => .null
  | .bool _ => .bool
  | .int _ => .int
  | .float _ => .float
  | .string _ => .string
  | .bytes _ => .bytes
  | .date _ => .date
  | .timestamp _ => .timestamp
  | .uuid _ => .uuid
  | .array _ => .array
  | .record _ => .record

/-- Whether a value is the missing one. -/
def isNull : Value → Bool
  | .null => true
  | _ => false

/-- The truth value of a boolean. -/
def bool? : Value → Option Bool
  | .bool b => some b
  | _ => none

/-- The first field of a record with a name. -/
def field? (name : String) : Value → Option Value
  | .record fields => fields.lookup name
  | _ => none

/-- Numbers in texts have no exponent, and whole ones no point. -/
def floatStyle : Decimal.Style where
  positional _ := true
  pointZero := false
  tie := .up
  notANumber := "NaN"
  infinity := "inf"

/-- A byte as two hexadecimal digits in upper case. -/
def byteText (b : UInt8) : String :=
  String.ofList [(Nat.digitChar (b.toNat / 16)).toUpper, (Nat.digitChar (b.toNat % 16)).toUpper]

mutual

/-- A value as text. -/
def text : Value → String
  | .null => "NULL"
  | .bool b => if b then "true" else "false"
  | .int i => toString i.toInt
  | .float x => floatStyle.write x
  | .string s => s
  | .bytes content => "0x" ++ String.join (content.map byteText)
  | .date d => d.toString
  | .timestamp t => t.toString
  | .uuid u => u.toString
  | .array items => "[" ++ ", ".intercalate (itemTexts items) ++ "]"
  | .record fields => "\x7b " ++ ", ".intercalate (fieldTexts fields) ++ " \x7d"

/-- The texts of items. -/
def itemTexts : List Value → List String
  | [] => []
  | item :: rest => item.text :: itemTexts rest

/-- The texts of fields. -/
def fieldTexts : List (String × Value) → List String
  | [] => []
  | (name, value) :: rest => (name ++ " = " ++ value.text) :: fieldTexts rest

end

end Value

/-- The value that stands in where an outer join found no row: zero for numbers, false for truth
values, and nothing for all else. -/
def DataType.defaultValue : DataType → Value
  | .bool => .bool false
  | .int16 | .int32 | .int64 => .int 0
  | .float32 | .float64 => .float 0.0
  | _ => .null

end SqlLowering
