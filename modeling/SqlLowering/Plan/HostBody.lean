import SqlLowering.Lowering.Error
import SqlLowering.Plan.Basic
import SqlLowering.Query.Placement

/-!
Bodies on the host: plans of the expressions that are applied to shapes after they have been read.
-/

namespace SqlLowering

mutual

/-- The plan of a body on the host, whose parameters are the shapes bound around it. -/
def Expr.compile : Expr → Except LowerError Plan
  | .parameter index _ => .ok (.bound index)
  | .constant value _ => .ok (.constant value)
  | .aliased expr _ => expr.compile
  | .input name type => .ok (.evaluate (.input name type))
  | .record fields =>
    if (Expr.record fields).isParameterizable then .ok (.evaluate (.record fields))
    else return .construct (← Expr.compileFields fields)
  | .member expr field type =>
    if (Expr.member expr field type).isParameterizable then
      .ok (.evaluate (.member expr field type))
    else return (← expr.compile).access field
  | .array elements type =>
    if (Expr.array elements type).isParameterizable then .ok (.evaluate (.array elements type))
    else return .array (← Expr.compileList elements)
  | .binary op left right =>
    if (Expr.binary op left right).isParameterizable then .ok (.evaluate (.binary op left right))
    else return .binary op (← left.compile) (← right.compile)
  | .unary op operand =>
    if (Expr.unary op operand).isParameterizable then .ok (.evaluate (.unary op operand))
    else return .unary op (← operand.compile)
  | .conditional test ifTrue ifFalse =>
    if (Expr.conditional test ifTrue ifFalse).isParameterizable then
      .ok (.evaluate (.conditional test ifTrue ifFalse))
    else return .conditional (← test.compile) (← ifTrue.compile) (← ifFalse.compile)
  | other => .error (.nodeInClient other.nodeName)

/-- The plans of bodies, from the first on. -/
def Expr.compileList : List Expr → Except LowerError (List Plan)
  | [] => .ok []
  | expr :: rest => do return (← expr.compile) :: (← Expr.compileList rest)

/-- The plans of named bodies, from the first on. -/
def Expr.compileFields : List (String × Expr) → Except LowerError (List (String × Plan))
  | [] => .ok []
  | (name, expr) :: rest => do return (name, ← expr.compile) :: (← Expr.compileFields rest)

end

end SqlLowering
