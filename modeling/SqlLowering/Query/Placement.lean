import SqlLowering.Query.Typing

/-!
Where an expression is evaluated. One that depends on inputs and on nothing of the database is
computed on the host; one that can be written as SQL is left to the database.
-/

namespace SqlLowering

mutual

/-- Whether an expression has no node that the host cannot evaluate by itself. -/
def Expr.isOnHost : Expr → Bool
  | .input .. | .constant .. => true
  | .binary _ left right => left.isOnHost && right.isOnHost
  | .unary _ operand => operand.isOnHost
  | .conditional test ifTrue ifFalse => test.isOnHost && ifTrue.isOnHost && ifFalse.isOnHost
  | .record fields => Expr.areFieldsOnHost fields
  | .array elements _ => Expr.areOnHost elements
  | .member expr _ _ => expr.isOnHost
  | _ => false

/-- Whether all expressions are on the host. -/
def Expr.areOnHost : List Expr → Bool
  | [] => true
  | expr :: rest => expr.isOnHost && Expr.areOnHost rest

/-- Whether all named expressions are on the host. -/
def Expr.areFieldsOnHost : List (String × Expr) → Bool
  | [] => true
  | (_, expr) :: rest => expr.isOnHost && Expr.areFieldsOnHost rest

end

mutual

/-- Whether an expression reads an input, outside of the nodes of the database. -/
def Expr.readsInput : Expr → Bool
  | .input .. => true
  | .binary _ left right => left.readsInput || right.readsInput
  | .unary _ operand => operand.readsInput
  | .conditional test ifTrue ifFalse =>
    test.readsInput || ifTrue.readsInput || ifFalse.readsInput
  | .record fields => Expr.anyFieldReadsInput fields
  | .array elements _ => Expr.anyReadsInput elements
  | .member expr _ _ => expr.readsInput
  | _ => false

/-- Whether some expression reads an input. -/
def Expr.anyReadsInput : List Expr → Bool
  | [] => false
  | expr :: rest => expr.readsInput || Expr.anyReadsInput rest

/-- Whether some named expression reads an input. -/
def Expr.anyFieldReadsInput : List (String × Expr) → Bool
  | [] => false
  | (_, expr) :: rest => expr.readsInput || Expr.anyFieldReadsInput rest

end

/-- Whether an expression depends on at least one input and on nothing of the database, so that its
value can be bound as a parameter. -/
def Expr.isParameterizable (expr : Expr) : Bool :=
  expr.readsInput && expr.isOnHost

mutual

/-- Whether an expression can be written as SQL. -/
def Expr.isRenderable : Expr → Bool
  | .column .. | .constant .. | .input .. | .fragment .. | .exists _ | .subquery .. => true
  | .aliased expr _ | .cast expr _ _ => expr.isRenderable
  | .aggregate _ arg _ _ => arg.isRenderable
  | .function _ args _ => Expr.areRenderable args
  | .isIn value values => value.isRenderable && values.isRenderable
  | .unary op operand => (Expr.unary op operand).isParameterizable || operand.isRenderable
  | .binary op left right =>
    (Expr.binary op left right).isParameterizable || (left.isRenderable && right.isRenderable)
  | .conditional test ifTrue ifFalse =>
    (Expr.conditional test ifTrue ifFalse).isParameterizable ||
      (test.isRenderable && ifTrue.isRenderable && ifFalse.isRenderable)
  | other => other.isParameterizable

/-- Whether all expressions can be written as SQL. -/
def Expr.areRenderable : List Expr → Bool
  | [] => true
  | expr :: rest => expr.isRenderable && Expr.areRenderable rest

/-- Whether what a value is looked for in can be written as SQL. -/
def InValues.isRenderable : InValues → Bool
  | .list elements => Expr.areRenderable elements
  | .dynamic expr => expr.isParameterizable
  | .subquery _ | .constants _ => true

end

end SqlLowering
