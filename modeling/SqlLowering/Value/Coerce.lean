import SqlLowering.Value.Basic
import SqlLowering.Binary64

/-!
Values of a wanted type, from the form in which a row holds them: truth values may be integers, and
days, moments and identifiers may be text.
-/

namespace SqlLowering

open Calendar

/-- Why a value of a wanted type could not be had. -/
inductive ValueError where
  | typeMismatch (expected : DataType) (found : String)
  | invalidLiteral (kind : Kind) (text : String)

/-- The wording of an error. -/
def ValueError.message : ValueError → String
  | .typeMismatch expected found =>
    "Type mismatch: expected " ++ expected.describe ++ ", got " ++ found
  | .invalidLiteral kind text => "Invalid " ++ kind.name ++ " literal: " ++ text

namespace Value

/-- The day that a text denotes. -/
def readDate (text : String) : Except ValueError Value :=
  match Date.ofString? text with
  | some d => .ok (.date d)
  | none => .error (.invalidLiteral .date text)

/-- The moment that a text denotes. -/
def readTimestamp (text : String) : Except ValueError Value :=
  match Timestamp.ofString? text with
  | some t => .ok (.timestamp t)
  | none => .error (.invalidLiteral .timestamp text)

/-- The identifier that a text denotes. -/
def readUuid (text : String) : Except ValueError Value :=
  match Uuid.ofString? text with
  | some u => .ok (.uuid u)
  | none => .error (.invalidLiteral .uuid text)

/-- The value as one of a type, from the form in which a row holds it. -/
def coerce (value : Value) (type : DataType) : Except ValueError Value :=
  match type, value with
  | _, .null => .ok .null
  | .bool, .bool b => .ok (.bool b)
  | .bool, .int i => .ok (.bool (i != 0))
  | .int16, .int i | .int32, .int i | .int64, .int i => .ok (.int i)
  | .int16, .bool b | .int32, .bool b | .int64, .bool b => .ok (.int (if b then 1 else 0))
  | .float32, .float x | .float64, .float x => .ok (.float x)
  | .float32, .int i | .float64, .int i => .ok (.float (Binary64.ofInt i.toInt))
  | .string, .string s => .ok (.string s)
  | .blob, .bytes b => .ok (.bytes b)
  | .date, .date d => .ok (.date d)
  | .date, .string s => readDate s
  | .timestamp, .timestamp t => .ok (.timestamp t)
  | .timestamp, .string s => readTimestamp s
  | .uuid, .uuid u => .ok (.uuid u)
  | .uuid, .string s => readUuid s
  | .record _, .record fields => .ok (.record fields)
  | .collection _, .array items => .ok (.array items)
  | type, other => .error (.typeMismatch type other.kind.name)

end Value

end SqlLowering
