import SqlLowering.Operator.Apply
import SqlLowering.Query.Basic

/-!
Evaluation on the host: the value of an expression that the database never sees, from the values of
the inputs that it reads.
-/

namespace SqlLowering

/-- A field of a value: null has null fields only. -/
def Value.project (field : String) (value : Value) : Except EvalError Value :=
  match value with
  | .null => .ok .null
  | value =>
    match value.field? field with
    | some found => .ok found
    | none => .error (.missingField field)

/-- The name under which evaluation refuses a node. -/
def Expr.refusedName : Expr → String
  | .column .. => "column"
  | .function .. => "function"
  | .fragment .. => "fragment"
  | .cast .. => "cast"
  | .exists _ => "exists"
  | .isIn .. => "in"
  | .aggregate .. => "aggregate"
  | .subquery .. => "subquery"
  | .parameter .. => "lambda parameter"
  | .defaultIfEmpty .. => "default-if-empty"
  | _ => "expression"

mutual

/-- The value of an expression for some inputs. -/
def Expr.eval (inputs : Inputs) : Expr → Except EvalError Value
  | .constant value _ => .ok value
  | .input name _ =>
    match inputs.get? name with
    | some value => .ok value
    | none => .error (.missingInput name)
  | .member expr field _ => do (← expr.eval inputs).project field
  | .binary op left right => do
    op.apply id (← left.eval inputs) fun _ => right.eval inputs
  | .unary op operand => do op.apply (← operand.eval inputs)
  | .conditional test ifTrue ifFalse => do
    if ← (← test.eval inputs).holds then ifTrue.eval inputs else ifFalse.eval inputs
  | .array elements _ => return .array (← Expr.evalList inputs elements)
  | .record fields => return .record (← Expr.evalFields inputs fields)
  | .aliased expr _ => expr.eval inputs
  | other => .error (.unsupported other.refusedName)

/-- The values of expressions, from the first on. -/
def Expr.evalList (inputs : Inputs) : List Expr → Except EvalError (List Value)
  | [] => .ok []
  | expr :: rest => do return (← expr.eval inputs) :: (← Expr.evalList inputs rest)

/-- The values of named expressions, from the first on. -/
def Expr.evalFields (inputs : Inputs) :
    List (String × Expr) → Except EvalError (List (String × Value))
  | [] => .ok []
  | (name, expr) :: rest => do
    return (name, ← expr.eval inputs) :: (← Expr.evalFields inputs rest)

end

end SqlLowering
