import SqlLowering.Plan.Columns
import SqlLowering.Plan.HostBody

/-!
Plans of projections. The columns of a single shape are named for their paths in it; with several
shapes, each path starts with the position of its shape.
-/

namespace SqlLowering

/-- The columns of the shapes of a projection so far, and the number of shapes. -/
structure Shapes where
  columns : List Column
  count : Nat

namespace Shapes

/-- No shape. -/
def empty : Shapes :=
  ⟨[], 0⟩

/-- The columns with the position of the only shape in front of their names. -/
def positioned (columns : List Column) : List Column :=
  columns.map fun column => { column with name := joinPath "$0" column.name }

/-- One more shape. With the second one, the names of the first get its position too. -/
def add (shapes : Shapes) (body : Expr) : Except LowerError (Plan × Shapes) := do
  let path := if shapes.count = 0 then [] else ["$" ++ toString shapes.count]
  let before := if shapes.count = 1 then positioned shapes.columns else shapes.columns
  let (plan, g) ← body.collect path false ⟨before, 0⟩
  return (plan, ⟨g.columns, shapes.count + 1⟩)

end Shapes

/-- The plan of a projection, and the shapes after it. -/
def Projection.flattenFrom : Projection → Shapes → Except LowerError (Plan × Shapes)
  | .server body, shapes => shapes.add body
  | .client body after, shapes => do
    let (plan, last) ← shapes.add body
    return (.combine [plan] (← after.compile), last)
  | .composite outer inner result, shapes => do
    let (outerPlan, afterOuter) ← outer.flattenFrom shapes
    let (innerPlan, last) ← inner.flattenFrom afterOuter
    return (.combine [outerPlan, innerPlan] (← result.compile), last)

/-- The columns of a projection, and the plan that rebuilds its results from them. -/
def Projection.flatten (projection : Projection) : Except LowerError (List Column × Plan) := do
  let (plan, shapes) ← projection.flattenFrom .empty
  return (shapes.columns, plan)

end SqlLowering
