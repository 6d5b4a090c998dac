import SqlLowering.Query.Basic

/-!
The depth of queries: how deeply selects and records nest in them.
-/

namespace SqlLowering

mutual

/-- How deeply selects and records nest in an expression. -/
def Expr.depth : Expr → Nat
  | .column .. | .constant .. | .input .. | .fragment .. | .parameter .. => 0
  | .aliased expr _ | .cast expr _ _ | .member expr _ _ | .aggregate _ expr _ _
  | .unary _ expr => expr.depth
  | .binary _ left right => max left.depth right.depth
  | .conditional test ifTrue ifFalse => max test.depth (max ifTrue.depth ifFalse.depth)
  | .function _ exprs _ | .array exprs _ => Expr.listDepth exprs
  | .record fields => Expr.fieldsDepth fields + 1
  | .defaultIfEmpty expr flag _ => max expr.depth flag.depth
  | .exists select | .subquery _ select _ => select.depth + 1
  | .isIn value values => max value.depth values.depth

/-- The greatest depth of expressions. -/
def Expr.listDepth : List Expr → Nat
  | [] => 0
  | expr :: rest => max expr.depth (Expr.listDepth rest)

/-- The greatest depth of named expressions. -/
def Expr.fieldsDepth : List (String × Expr) → Nat
  | [] => 0
  | (_, expr) :: rest => max expr.depth (Expr.fieldsDepth rest)

/-- The depth of an expression, if there is one. -/
def Expr.optionDepth : Option Expr → Nat
  | some expr => expr.depth
  | none => 0

/-- The depth of what a value is looked for in. -/
def InValues.depth : InValues → Nat
  | .subquery select => select.depth + 1
  | .list elements => Expr.listDepth elements
  | .dynamic expr => expr.depth
  | .constants _ => 0

/-- The depth of a projection. -/
def Projection.depth : Projection → Nat
  | .server body => body.depth
  | .client body after => max body.depth after.depth
  | .composite outer inner result => max outer.depth (max inner.depth result.depth)

/-- The depth of a table. -/
def Table.depth : Table → Nat
  | .base .. => 0
  | .subquery _ _ select => select.depth + 1
  | .setOperation _ _ _ left right => max left.depth right.depth + 1
  | .join _ outer inner predicate => max outer.depth (max inner.depth predicate.depth)
  | .cross _ outer inner => max outer.depth inner.depth

/-- The depth of a table, if there is one. -/
def Table.optionDepth : Option Table → Nat
  | some table => table.depth
  | none => 0

/-- The depth of an ordering. -/
def OrderBy.depth : OrderBy → Nat
  | .term expr _ => expr.depth
  | .andThen previous expr _ => max previous.depth expr.depth

/-- The depth of an ordering, if there is one. -/
def OrderBy.optionDepth : Option OrderBy → Nat
  | some ordering => ordering.depth
  | none => 0

/-- How deeply selects and records nest in a select. -/
def Select.depth : Select → Nat
  | ⟨projection, table, predicate, grouping, ordering, offset, limit, _⟩ =>
    max projection.depth (max (Table.optionDepth table) (max (Expr.optionDepth predicate)
      (max (Expr.optionDepth grouping) (max (OrderBy.optionDepth ordering)
        (max (Expr.optionDepth offset) (Expr.optionDepth limit))))))

end

end SqlLowering
