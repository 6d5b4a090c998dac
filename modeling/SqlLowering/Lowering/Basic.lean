import SqlLowering.Plan.Json
import SqlLowering.Script.Select

/-!
Lowering: a query becomes a recipe for its command, the columns that the command yields, and a plan
for its rows.
-/

namespace SqlLowering

/-- A column that a command yields. -/
structure YieldedColumn where
  name : String
  type : DataType

/-- A lowered query. -/
structure Lowered where
  recipe : Recipe
  columns : List YieldedColumn
  plan : Plan

/-- The lowering of a query for a dialect, with a number of blanks to a level of the text. -/
def Select.lower (dialect : Dialect) (indentWidth : Nat) (select : Select) :
    Except LowerError Lowered := do
  let script ← select.script dialect
  let (columns, plan) ← select.projection.flatten
  return {
    recipe := script.recipe dialect indentWidth
    columns := columns.map fun column => ⟨column.name, column.expr.type⟩
    plan := plan }

/-- The document of a column. -/
def YieldedColumn.toJson (column : YieldedColumn) : Json :=
  .object [("name", .string column.name), ("ty", column.type.toJson)]

end SqlLowering
