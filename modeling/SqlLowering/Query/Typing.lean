import SqlLowering.Query.Basic

/-!
The static type of an expression and of the results of a projection.
-/

namespace SqlLowering

mutual

/-- The static type of an expression. A record's fields may all be null. -/
def Expr.type : Expr → DataType
  | .column _ _ type | .constant _ type | .input _ type | .function _ _ type | .fragment _ type
  | .cast _ _ type | .aggregate _ _ _ type | .subquery _ _ type | .array _ type
  | .member _ _ type | .parameter _ type => type
  | .aliased expr _ | .defaultIfEmpty expr _ _ => expr.type
  | .binary op left _ => if op.isPredicate then .bool else left.type
  | .unary .not _ => .bool
  | .unary .negate operand => operand.type
  | .unary (.convert type) _ => type
  | .conditional _ ifTrue _ => ifTrue.type
  | .exists _ | .isIn .. => .bool
  | .record fields => .record (Expr.fieldTypes fields)

/-- The types of the fields of a record. -/
def Expr.fieldTypes : List (String × Expr) → List FieldType
  | [] => []
  | (name, expr) :: rest => ⟨name, expr.type, true⟩ :: Expr.fieldTypes rest

end

/-- The static type of the results of a projection. -/
def Projection.type : Projection → DataType
  | .server body => body.type
  | .client _ body => body.type
  | .composite _ _ result => result.type

end SqlLowering
