import SqlLowering.Plan.Basic
import SqlLowering.Query.Encode

/-!
Plans as JSON: an object that names the instruction first.
-/

namespace SqlLowering.Plan

/-- An object of an instruction and its members. -/
def instruction (name : String) (members : List (String × Json)) : Json :=
  .object (("instr", .string name) :: members)

mutual

/-- The document of a plan. -/
def toJson : Plan → Json
  | .readColumn ordinal type =>
    instruction "read_column" [("ordinal", .int ordinal), ("ty", type.toJson)]
  | .decodeSubDocument ordinal type =>
    instruction "decode_sub_document" [("ordinal", .int ordinal), ("ty", type.toJson)]
  | .defaultIfEmpty flagOrdinal default inner =>
    instruction "default_if_empty"
      [("flag_ordinal", .int flagOrdinal), ("default", default.toJson), ("inner", inner.toJson)]
  | .construct fields => instruction "construct" [("fields", .array (fieldsToJson fields))]
  | .combine inputs body =>
    instruction "combine" [("inputs", .array (listToJson inputs)), ("body", body.toJson)]
  | .bound index => instruction "bound" [("index", .int index.toNat)]
  | .field source name =>
    instruction "field" [("source", source.toJson), ("field", .string name)]
  | .array elements => instruction "array" [("elements", .array (listToJson elements))]
  | .constant value => instruction "constant" [("value", value.toJson)]
  | .binary op left right =>
    instruction "binary"
      [("op", .string op.name), ("left", left.toJson), ("right", right.toJson)]
  | .unary op operand =>
    instruction "unary" [("op", op.toJson), ("operand", operand.toJson)]
  | .conditional test ifTrue ifFalse =>
    instruction "conditional"
      [("test", test.toJson), ("if_true", ifTrue.toJson), ("if_false", ifFalse.toJson)]
  | .evaluate expr => instruction "evaluate" [("expr", expr.toJson)]

/-- The documents of plans. -/
def listToJson : List Plan → List Json
  | [] => []
  | plan :: rest => plan.toJson :: listToJson rest

/-- The documents of named plans. -/
def fieldsToJson : List (String × Plan) → List Json
  | [] => []
  | (name, plan) :: rest => .array [.string name, plan.toJson] :: fieldsToJson rest

end

end SqlLowering.Plan
