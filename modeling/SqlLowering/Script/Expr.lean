import SqlLowering.Lowering.Error
import SqlLowering.Query.Placement
import SqlLowering.Script.Basic

/-!
Scripts of expressions. The script of an expression follows its structure. What is not part of the
expression itself, a nested select and the expansion of a record comparison, is rendered by a
renderer of one level less.
-/

namespace SqlLowering

/-- What rendering depends on: the dialect, and the tables of the query with the aliases that they
prefer. -/
structure RenderContext where
  dialect : Dialect
  tables : List (TableId × String)

namespace RenderContext

/-- A quoted identifier. -/
def identifier (ctx : RenderContext) (name : String) : Script :=
  .text (ctx.dialect.quoteIdentifier name)

/-- The alias of a table of the query. -/
def tableName (ctx : RenderContext) (id : TableId) : Except LowerError Script :=
  match ctx.tables.lookup id with
  | some preferred => .ok (.tableName id preferred)
  | none => .error (.unknownTable id)

/-- The literal of a constant. -/
def literal (ctx : RenderContext) : Value → Except LowerError String
  | .null => .ok "NULL"
  | .bool b => .ok (if b then "1" else "0")
  | .string s => .ok (ctx.dialect.stringLiteral s)
  | .date d => .ok ("'" ++ (Value.date d).text ++ "'")
  | .timestamp t => .ok ("'" ++ (Value.timestamp t).text ++ "'")
  | .uuid u => .ok ("'" ++ (Value.uuid u).text ++ "'")
  | .array items => .error (.constantInSql (Value.array items).kind)
  | .record fields => .error (.constantInSql (Value.record fields).kind)
  | other => .ok other.text

/-- The rows that stand for a list without elements. -/
def emptyList (ctx : RenderContext) : Script :=
  .text ctx.dialect.emptyList

/-- The literals of constants as a list. -/
def literals (ctx : RenderContext) : List Value → Except LowerError Script
  | [] => .ok ctx.emptyList
  | values => return Script.separated ", " ((← values.mapM ctx.literal).map Script.text)

end RenderContext

/-- The renderer of one level less. -/
structure Below where
  expr : Expr → Except LowerError Script
  select : Select → Except LowerError Script

/-- The renderer that refuses everything. -/
def Below.none : Below :=
  ⟨fun _ => .error .tooDeep, fun _ => .error .tooDeep⟩

/-- Where an expression stands: a binary one is put in parentheses as an operand. -/
inductive Position where
  | whole
  | operand
deriving DecidableEq, Repr

namespace BinaryOp

/-- The sign of an operator between its operands. -/
def sign : BinaryOp → Except LowerError String
  | .and => .ok "AND"
  | .or => .ok "OR"
  | .equal => .ok "="
  | .notEqual => .ok "<>"
  | .greaterThan => .ok ">"
  | .greaterThanOrEqual => .ok ">="
  | .lessThan => .ok "<"
  | .lessThanOrEqual => .ok "<="
  | .add => .ok "+"
  | .subtract => .ok "-"
  | .multiply => .ok "*"
  | .divide => .ok "/"
  | op => .error (.operatorInSql op)

/-- Whether an operator compares records field by field. -/
def comparesRecords (op : BinaryOp) : Bool :=
  op = .equal || op = .notEqual

end BinaryOp

/-- The comparison of two records, field by field in order: all fields are equal, or some differ. -/
def recordComparison (op : BinaryOp) (left right : List (String × Expr)) :
    Except LowerError Expr :=
  if left.length ≠ right.length then .error .recordArity
  else
    let joiner := if op = .equal then .and else .or
    match List.zipWith (fun l r => Expr.binary op l.2 r.2) left right with
    | [] => .error .emptyRecords
    | term :: rest => .ok (rest.foldl (.binary joiner) term)

/-- Whether a unary negation is written in front of a node. -/
def Expr.takesNot : Expr → Bool
  | .exists _ | .isIn .. => true
  | _ => false

/-- Whether an expression is computed on the host and bound as one parameter. -/
def Expr.isHoisted (expr : Expr) : Bool :=
  expr.isParameterizable && expr.type.isScalar

/-- A select in parentheses, with a clause at its end if its rows are to be one document. -/
def renderSubquery (ctx : RenderContext) (below : Below) (asDocument : Bool) (select : Select) :
    Except LowerError Script := do
  let body ← below.select select
  let directive : Script :=
    if asDocument then Script.newline ++ Script.text ctx.dialect.subDocumentDirective else []
  return Script.text "(" ++ Script.block (body ++ directive) ++ Script.text ")"

/-- Whether the rows of a subquery are to be one document. -/
def SubqueryKind.isDocument (kind : SubqueryKind) (type : DataType) : Bool :=
  kind ≠ .scalar || !type.isScalar

mutual

/-- The script of an expression. One that depends on inputs only is bound as a parameter, except
for a binary one as an operand, which is taken apart. -/
def Expr.render (ctx : RenderContext) (below : Below) (position : Position) :
    Expr → Except LowerError Script
  | .column table name _ => do
    return (← ctx.tableName table) ++ Script.text "." ++ ctx.identifier name
  | .aliased expr name => do
    return (← expr.render ctx below .whole) ++ Script.text " AS " ++ ctx.identifier name
  | .constant value _ => return Script.text (← ctx.literal value)
  | .binary op left right =>
    if position = .whole ∧ (Expr.binary op left right).isHoisted then
      .ok (.parameter (.binary op left right))
    else do
      let body ←
        if op = .coalesce then do
          let first ← left.render ctx below .whole
          let second ← right.render ctx below .whole
          pure (Script.text "COALESCE(" ++ first ++ Script.text ", " ++ second ++ Script.text ")")
        else match op.comparesRecords, left, right with
          | true, .record ls, .record rs => do below.expr (← recordComparison op ls rs)
          | _, left, right => do
            let sign ← op.sign
            let first ← left.render ctx below .operand
            let second ← right.render ctx below .operand
            pure (first ++ Script.text (" " ++ sign ++ " ") ++ second)
      return match position with
        | .whole => body
        | .operand => Script.text "(" ++ body ++ Script.text ")"
  | .unary op operand =>
    if (Expr.unary op operand).isHoisted then .ok (.parameter (.unary op operand))
    else match op with
      | .not =>
        if operand.takesNot then do
          return Script.text "NOT " ++ (← operand.render ctx below .whole)
        else do
          return Script.text "0 = " ++ (← operand.render ctx below .operand)
      | .negate => do return Script.text "-" ++ (← operand.render ctx below .operand)
      | .convert _ => operand.render ctx below .whole
  | .conditional test ifTrue ifFalse =>
    if (Expr.conditional test ifTrue ifFalse).isHoisted then
      .ok (.parameter (.conditional test ifTrue ifFalse))
    else do
      let condition ← test.render ctx below .whole
      let first ← ifTrue.render ctx below .whole
      let second ← ifFalse.render ctx below .whole
      return Script.text "(CASE WHEN " ++ condition ++ Script.text " THEN " ++ first ++
        Script.text " ELSE " ++ second ++ Script.text " END)"
  | .function name args _ => do
    return Script.text (name ++ "(") ++ Script.separated ", " (← Expr.renderList ctx below args) ++
      Script.text ")"
  | .fragment sql _ => .ok (Script.text sql)
  | .cast expr sqlType _ => do
    return Script.text "CAST(" ++ (← expr.render ctx below .whole) ++
      Script.text (" AS " ++ sqlType ++ ")")
  | .exists select => do return Script.text "EXISTS " ++ (← renderSubquery ctx below false select)
  | .isIn value values => do
    let tested ← value.render ctx below .whole
    return tested ++ Script.text " IN (" ++ (← values.render ctx below) ++ Script.text ")"
  | .aggregate function arg distinct _ => do
    return Script.text (function ++ "(" ++ if distinct then "DISTINCT " else "") ++
      (← arg.render ctx below .whole) ++ Script.text ")"
  | .subquery kind select type => renderSubquery ctx below (kind.isDocument type) select
  | other => if other.isHoisted then .ok (.parameter other) else .error (.nodeInSql other.nodeName)

/-- The scripts of expressions, from the first on. -/
def Expr.renderList (ctx : RenderContext) (below : Below) :
    List Expr → Except LowerError (List Script)
  | [] => .ok []
  | expr :: rest => do
    return (← expr.render ctx below .whole) :: (← Expr.renderList ctx below rest)

/-- The script of what a value is looked for in. -/
def InValues.render (ctx : RenderContext) (below : Below) :
    InValues → Except LowerError Script
  | .subquery select => return Script.block (← below.select select)
  | .list [] => .ok ctx.emptyList
  | .list elements => return Script.separated ", " (← Expr.renderList ctx below elements)
  | .constants values => ctx.literals values
  | .dynamic expr =>
    if expr.isParameterizable then .ok (.list expr) else .error (.openList expr.nodeName)

end

end SqlLowering
