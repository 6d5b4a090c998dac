import SqlLowering.Query.Basic
import SqlLowering.DataType.Json
import SqlLowering.Value.Json

/-!
Queries as JSON. A node is an object whose first member names its variant, followed by its parts in
a fixed order; parts that are absent are left out.
-/

namespace SqlLowering

/-- The name of a set operator. -/
def SetOperator.name : SetOperator → String
  | .union => "Union"
  | .unionAll => "UnionAll"
  | .intersect => "Intersect"
  | .except => "Except"

/-- The variant name of a join on a condition. -/
def JoinKind.variant : JoinKind → String
  | .inner => "InnerJoin"
  | .left => "LeftJoin"

/-- The variant name of a join without a condition. -/
def CrossKind.variant : CrossKind → String
  | .crossJoin => "CrossJoin"
  | .crossApply => "CrossApply"
  | .outerApply => "OuterApply"

/-- The variant name of a subquery. -/
def SubqueryKind.variant : SubqueryKind → String
  | .scalar => "ScalarSubquery"
  | .record => "ComplexSubquery"
  | .collection => "CollectionSubquery"

/-- The document of a binary operator. -/
def BinaryOp.toJson (op : BinaryOp) : Json :=
  .string op.name

/-- The document of a unary operator. -/
def UnaryOp.toJson : UnaryOp → Json
  | .not => .string "Not"
  | .negate => .string "Negate"
  | .convert type => .object [("Convert", .object [("ty", type.toJson)])]

/-- The document of an identity. -/
def TableId.toJson (id : TableId) : Json :=
  .int id.val.toNat

/-- An object with the name of its variant in front. -/
def variantJson (name : String) (members : List (String × Json)) : Json :=
  .object (("type", .string name) :: members)

/-- A member that is left out when there is nothing to write. -/
def optionalMember (name : String) : Option Json → List (String × Json)
  | some json => [(name, json)]
  | none => []

mutual

/-- The document of an expression. -/
def Expr.toJson : Expr → Json
  | .column table name type =>
    variantJson "Column" [("table", table.toJson), ("name", .string name), ("ty", type.toJson)]
  | .aliased expr name => variantJson "Alias" [("expr", expr.toJson), ("alias", .string name)]
  | .constant value type => variantJson "Constant" [("value", value.toJson), ("ty", type.toJson)]
  | .input name type => variantJson "Input" [("name", .string name), ("ty", type.toJson)]
  | .binary op left right =>
    variantJson "Binary" [("op", op.toJson), ("left", left.toJson), ("right", right.toJson)]
  | .unary op operand => variantJson "Unary" [("op", op.toJson), ("operand", operand.toJson)]
  | .conditional test ifTrue ifFalse =>
    variantJson "Conditional"
      [("test", test.toJson), ("if_true", ifTrue.toJson), ("if_false", ifFalse.toJson)]
  | .function name args type =>
    variantJson "Function"
      (("name", .string name) ::
        (if args.isEmpty then [] else [("args", .array (Expr.listToJson args))]) ++
        [("ty", type.toJson)])
  | .fragment sql type => variantJson "Fragment" [("sql", .string sql), ("ty", type.toJson)]
  | .cast expr sqlType type =>
    variantJson "Cast" [("expr", expr.toJson), ("sql_type", .string sqlType), ("ty", type.toJson)]
  | .exists select => variantJson "Exists" [("select", select.toJson)]
  | .isIn value values => variantJson "In" [("value", value.toJson), ("values", values.toJson)]
  | .aggregate function arg distinct type =>
    variantJson "Aggregate"
      [("function", .string function), ("arg", arg.toJson), ("distinct", .bool distinct),
        ("ty", type.toJson)]
  | .subquery kind select type =>
    variantJson kind.variant [("select", select.toJson), ("ty", type.toJson)]
  | .record fields => variantJson "New" [("fields", .array (Expr.fieldsToJson fields))]
  | .array elements type =>
    variantJson "ArrayInit" [("elements", .array (Expr.listToJson elements)), ("ty", type.toJson)]
  | .member expr field type =>
    variantJson "Member" [("expr", expr.toJson), ("field", .string field), ("ty", type.toJson)]
  | .parameter index type =>
    variantJson "Parameter" [("index", .int index.toNat), ("ty", type.toJson)]
  | .defaultIfEmpty expr flag flagAlias =>
    variantJson "DefaultIfEmpty"
      [("expr", expr.toJson), ("flag", flag.toJson), ("flag_alias", .string flagAlias)]

/-- The documents of expressions. -/
def Expr.listToJson : List Expr → List Json
  | [] => []
  | expr :: rest => expr.toJson :: Expr.listToJson rest

/-- The documents of named expressions, each a pair. -/
def Expr.fieldsToJson : List (String × Expr) → List Json
  | [] => []
  | (name, expr) :: rest => .array [.string name, expr.toJson] :: Expr.fieldsToJson rest

/-- The document of an expression that may be absent. -/
def Expr.optionToJson : Option Expr → Option Json
  | some expr => some expr.toJson
  | none => none

/-- The document of what a value is looked for in. -/
def InValues.toJson : InValues → Json
  | .subquery select => .object [("kind", .string "Subquery"), ("select", select.toJson)]
  | .list elements =>
    .object [("kind", .string "List"), ("elements", .array (Expr.listToJson elements))]
  | .constants values =>
    .object [("kind", .string "Constants"), ("values", .array (values.map Value.toJson))]
  | .dynamic expr => .object [("kind", .string "Dynamic"), ("expr", expr.toJson)]

/-- The document of a projection. -/
def Projection.toJson : Projection → Json
  | .server body => variantJson "Server" [("body", body.toJson)]
  | .client body after => variantJson "Client" [("server", body.toJson), ("client", after.toJson)]
  | .composite outer inner result =>
    variantJson "Composite"
      [("outer", outer.toJson), ("inner", inner.toJson), ("result", result.toJson)]

/-- The document of a table. -/
def Table.toJson : Table → Json
  | .base id schema name preferred =>
    variantJson "Base"
      [("id", id.toJson), ("schema", .string schema), ("name", .string name),
        ("alias", .string preferred)]
  | .subquery id preferred select =>
    variantJson "Subquery"
      [("id", id.toJson), ("alias", .string preferred), ("select", select.toJson)]
  | .setOperation id preferred op left right =>
    variantJson "SetOperation"
      [("id", id.toJson), ("alias", .string preferred), ("operator", .string op.name),
        ("left", left.toJson), ("right", right.toJson)]
  | .join kind outer inner predicate =>
    variantJson kind.variant
      [("outer", outer.toJson), ("inner", inner.toJson), ("predicate", predicate.toJson)]
  | .cross kind outer inner =>
    variantJson kind.variant [("outer", outer.toJson), ("inner", inner.toJson)]

/-- The document of a table that may be absent. -/
def Table.optionToJson : Option Table → Option Json
  | some table => some table.toJson
  | none => none

/-- The document of an ordering: the last term, linked to the ones before it. -/
def OrderBy.toJson : OrderBy → Json
  | .term expr descending =>
    .object [("expr", expr.toJson), ("descending", .bool descending)]
  | .andThen previous expr descending =>
    .object
      [("expr", expr.toJson), ("descending", .bool descending), ("previous", previous.toJson)]

/-- The document of an ordering that may be absent. -/
def OrderBy.optionToJson : Option OrderBy → Option Json
  | some ordering => some ordering.toJson
  | none => none

/-- The document of a select. -/
def Select.toJson : Select → Json
  | ⟨projection, table, predicate, grouping, ordering, offset, limit, distinct⟩ =>
    .object
      ([("projection", projection.toJson)] ++
        optionalMember "table" (Table.optionToJson table) ++
        optionalMember "predicate" (Expr.optionToJson predicate) ++
        optionalMember "grouping" (Expr.optionToJson grouping) ++
        optionalMember "ordering" (OrderBy.optionToJson ordering) ++
        optionalMember "offset" (Expr.optionToJson offset) ++
        optionalMember "limit" (Expr.optionToJson limit) ++
        [("distinct", .bool distinct)])

end

end SqlLowering
