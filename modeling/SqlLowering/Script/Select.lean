import SqlLowering.Plan.Projection
import SqlLowering.Query.Declarations
import SqlLowering.Query.Depth
import SqlLowering.Script.Expr

/-!
Scripts of selects, clause by clause. A query is rendered with as many levels as it is deep.
-/

namespace SqlLowering

/-- Whether the database returns the truth value of a node as a value already. -/
def Expr.isStored : Expr → Bool
  | .aliased .. | .column .. | .cast .. => true
  | _ => false

/-- Whether the truth value of a node stands as a value in a list. -/
def Expr.isListed : Expr → Bool
  | .conditional .. | .constant .. => true
  | other => other.isStored

/-- The script of an item of a list of expressions: a condition becomes a value. -/
def Expr.renderItem (ctx : RenderContext) (below : Below) (expr : Expr) :
    Except LowerError Script := do
  let script ← expr.render ctx below .whole
  if expr.type.isBoolean && !expr.isListed then
    return Script.text "(CASE WHEN " ++ script ++ Script.text " THEN 1 ELSE 0 END)"
  else
    return script

/-- The script of a column of a select. The outermost select stores truth values. -/
def Column.render (ctx : RenderContext) (below : Below) (outermost : Bool) (column : Column) :
    Except LowerError Script := do
  let item ← column.expr.renderItem ctx below
  let stored :=
    if outermost && column.expr.type.isBoolean && !column.expr.isStored then
      Script.text "CAST(" ++ item ++
        Script.text (" AS " ++ ctx.dialect.booleanStorageType ++ ")")
    else item
  if column.name.isEmpty then return stored
  else return stored ++ Script.text " AS " ++ ctx.identifier column.name

/-- The script of the columns of a select; a select without columns yields a constant. -/
def renderColumns (ctx : RenderContext) (below : Below) (outermost : Bool)
    (columns : List Column) : Except LowerError Script :=
  if columns.isEmpty then .ok (Script.text "1")
  else return Script.separated ", " (← columns.mapM (·.render ctx below outermost))

/-- The words of an operator between selects. -/
def SetOperator.keyword : SetOperator → String
  | .union => "UNION"
  | .unionAll => "UNION ALL"
  | .intersect => "INTERSECT"
  | .except => "EXCEPT"

/-- The words of a join on a condition. -/
def JoinKind.keyword : JoinKind → String
  | .inner => "INNER JOIN"
  | .left => "LEFT JOIN"

/-- The words of a join without a condition. -/
def CrossKind.keyword : CrossKind → String
  | .crossJoin => "CROSS JOIN"
  | .crossApply => "CROSS APPLY"
  | .outerApply => "OUTER APPLY"

/-- A table under its alias. -/
def RenderContext.aliased (ctx : RenderContext) (id : TableId) (script : Script) :
    Except LowerError Script := do
  return script ++ Script.text " AS " ++ (← ctx.tableName id)

/-- The script of a table. -/
def Table.render (ctx : RenderContext) (below : Below) : Table → Except LowerError Script
  | .base id schema name _ =>
    let qualifier := if schema.isEmpty then [] else ctx.identifier schema ++ Script.text "."
    ctx.aliased id (qualifier ++ ctx.identifier name)
  | .subquery id _ select => do ctx.aliased id (← renderSubquery ctx below false select)
  | .setOperation id _ op left right => do
    let first ← below.select left
    let second ← below.select right
    let keyword := Script.newline ++ Script.text op.keyword ++ Script.newline
    ctx.aliased id (Script.text "(" ++ Script.block (first ++ keyword ++ second) ++ Script.text ")")
  | .join kind outer inner predicate => do
    let first ← outer.render ctx below
    let second ← inner.render ctx below
    let condition ← predicate.render ctx below .whole
    return first ++ Script.newline ++ Script.text (kind.keyword ++ " ") ++ second ++
      Script.text " ON " ++ condition
  | .cross kind outer inner => do
    let first ← outer.render ctx below
    let second ← inner.render ctx below
    return first ++ Script.newline ++ Script.text (kind.keyword ++ " ") ++ second

/-- The script of a term of an ordering. -/
def renderTerm (ctx : RenderContext) (below : Below) (expr : Expr) (descending : Bool) :
    Except LowerError Script := do
  return (← expr.renderItem ctx below) ++ Script.text (if descending then " DESC" else " ASC")

/-- The script of the terms of an ordering. -/
def OrderBy.render (ctx : RenderContext) (below : Below) : OrderBy → Except LowerError Script
  | .term expr descending => renderTerm ctx below expr descending
  | .andThen previous expr descending => do
    let first ← previous.render ctx below
    return first ++ Script.text ", " ++ (← renderTerm ctx below expr descending)

/-- A clause on a line of its own, or nothing. -/
def renderClause {α : Type} (keyword : String) (render : α → Except LowerError Script) :
    Option α → Except LowerError Script
  | none => .ok []
  | some a => return Script.newline ++ Script.text (keyword ++ " ") ++ (← render a)

/-- The script of the keys of a grouping. -/
def renderGrouping (ctx : RenderContext) (below : Below) (key : Expr) :
    Except LowerError Script := do
  let keys ← key.groupingKeys
  return Script.separated ", " (← keys.mapM (·.renderItem ctx below))

/-- The limit in front of the columns, where it stands there. -/
def renderTop (ctx : RenderContext) (below : Below) (placement : LimitPlacement) :
    Option Expr → Except LowerError Script
  | some limit =>
    if placement = .top then
      return Script.text "TOP (" ++ (← limit.render ctx below .whole) ++ Script.text ") "
    else .ok []
  | none => .ok []

/-- The rows to be skipped and the limit behind them; rows need an order to be skipped. -/
def renderFetch (ctx : RenderContext) (below : Below) (ordered : Bool) (offset : Expr)
    (limit : Option Expr) : Except LowerError Script := do
  let ordering : Script :=
    if ordered then []
    else Script.newline ++ Script.text ("ORDER BY " ++ ctx.dialect.constantOrdering)
  let skipped ← offset.render ctx below .whole
  let fetched : Script ← match limit with
    | none => pure []
    | some limit => do
      pure (Script.text " FETCH NEXT " ++ (← limit.render ctx below .whole) ++
        Script.text " ROWS ONLY")
  return ordering ++ Script.newline ++ Script.text "OFFSET " ++ skipped ++ Script.text " ROWS" ++
    fetched

/-- The limit and the rows to be skipped at the end of a select, where they stand there. -/
def renderPaging (ctx : RenderContext) (below : Below) (placement : LimitPlacement)
    (ordered : Bool) (offset limit : Option Expr) : Except LowerError Script :=
  match placement, offset with
  | .top, _ | .offsetFetch, none => .ok []
  | .offsetFetch, some offset => renderFetch ctx below ordered offset limit
  | .limitOffset, offset => do
    let first ← renderClause "LIMIT" (·.render ctx below .whole) limit
    return first ++ (← renderClause "OFFSET" (·.render ctx below .whole) offset)

/-- The script of a select. -/
def Select.render (ctx : RenderContext) (below : Below) (outermost : Bool) (select : Select) :
    Except LowerError Script := do
  let placement := ctx.dialect.limitPlacement select.offset.isSome
  let top ← renderTop ctx below placement select.limit
  let (columns, _) ← select.projection.flatten
  let items ← renderColumns ctx below outermost columns
  let table ← renderClause "FROM" (·.render ctx below) select.table
  let predicate ← renderClause "WHERE" (·.render ctx below .whole) select.predicate
  let grouping ← renderClause "GROUP BY" (renderGrouping ctx below) select.grouping
  let ordering ← renderClause "ORDER BY" (·.render ctx below) select.ordering
  let paging ←
    renderPaging ctx below placement select.ordering.isSome select.offset select.limit
  return Script.text (if select.distinct then "SELECT DISTINCT " else "SELECT ") ++ top ++ items ++
    table ++ predicate ++ grouping ++ ordering ++ paging

/-! ## Levels -/

/-- The renderer of a number of levels. -/
def Below.level (ctx : RenderContext) : Nat → Below
  | 0 => .none
  | n + 1 =>
    ⟨fun expr => expr.render ctx (level ctx n) .whole,
      fun select => select.render ctx (level ctx n) false⟩

/-- The script of a whole query. -/
def Select.script (dialect : Dialect) (select : Select) : Except LowerError Script :=
  let ctx : RenderContext := ⟨dialect, select.declarations⟩
  select.render ctx (.level ctx select.depth) true

end SqlLowering
