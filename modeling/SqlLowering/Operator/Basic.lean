import SqlLowering.DataType.Basic

/-!
The operators of expressions.
-/

namespace SqlLowering

/-- An operator between two operands. -/
inductive BinaryOp where
  | coalesce
  | and
  | or
  | equal
  | notEqual
  | greaterThan
  | greaterThanOrEqual
  | lessThan
  | lessThanOrEqual
  | add
  | subtract
  | multiply
  | divide
  | modulo
  | power
  | exclusiveOr
deriving DecidableEq, Repr

/-- An operator on one operand. -/
inductive UnaryOp where
  | not
  | negate
  | convert (type : DataType)

namespace BinaryOp

/-- All binary operators. -/
def all : List BinaryOp :=
  [.coalesce, .and, .or, .equal, .notEqual, .greaterThan, .greaterThanOrEqual, .lessThan,
    .lessThanOrEqual, .add, .subtract, .multiply, .divide, .modulo, .power, .exclusiveOr]

/-- The name of an operator. -/
def name : BinaryOp → String
  | .coalesce => "Coalesce"
  | .and => "And"
  | .or => "Or"
  | .equal => "Equal"
  | .notEqual => "NotEqual"
  | .greaterThan => "GreaterThan"
  | .greaterThanOrEqual => "GreaterThanOrEqual"
  | .lessThan => "LessThan"
  | .lessThanOrEqual => "LessThanOrEqual"
  | .add => "Add"
  | .subtract => "Subtract"
  | .multiply => "Multiply"
  | .divide => "Divide"
  | .modulo => "Modulo"
  | .power => "Power"
  | .exclusiveOr => "ExclusiveOr"

/-- The operator of a name. -/
def ofName? (name : String) : Option BinaryOp :=
  all.find? fun op => op.name = name

/-- Whether an operator yields a truth value. -/
def isPredicate : BinaryOp → Bool
  | .and | .or | .equal | .notEqual | .greaterThan | .greaterThanOrEqual | .lessThan
  | .lessThanOrEqual => true
  | _ => false

end BinaryOp

/-- A unary operator as messages show it. -/
def UnaryOp.describe : UnaryOp → String
  | .not => "Not"
  | .negate => "Negate"
  | .convert type => "Convert \x7b ty: " ++ type.describe ++ " \x7d"

end SqlLowering
