import SqlLowering.Operator.Basic
import SqlLowering.Value.Basic

/-!
Queries: a select block over tables, with expressions for its parts and a projection for the shape
of its results. Columns refer to a table by its identity, never by a name.
-/

namespace SqlLowering

/-- The identity of a table, subquery or set operation within a query. -/
structure TableId where
  val : UInt32
deriving DecidableEq, Repr

/-- An identity as messages show it. -/
def TableId.describe (id : TableId) : String :=
  "#" ++ toString id.val.toNat

/-- What a subquery in an expression yields. -/
inductive SubqueryKind where
  /-- One scalar value. -/
  | scalar
  /-- One record, as a document. -/
  | record
  /-- A collection, as a document. -/
  | collection
deriving DecidableEq, Repr

/-- An operator between two selects. -/
inductive SetOperator where
  | union
  | unionAll
  | intersect
  | except
deriving DecidableEq, Repr

/-- A join on a condition. -/
inductive JoinKind where
  | inner
  | left
deriving DecidableEq, Repr

/-- A join without a condition. -/
inductive CrossKind where
  | crossJoin
  | crossApply
  | outerApply
deriving DecidableEq, Repr

mutual

/-- An expression. Columns, functions, subqueries and the like are evaluated by the database;
inputs, records, arrays, members and parameters belong to the host; constants, operators and
conditionals belong to both. -/
inductive Expr where
  | column (table : TableId) (name : String) (type : DataType)
  | aliased (expr : Expr) (name : String)
  | constant (value : Value) (type : DataType)
  | input (name : String) (type : DataType)
  | binary (op : BinaryOp) (left right : Expr)
  | unary (op : UnaryOp) (operand : Expr)
  | conditional (test ifTrue ifFalse : Expr)
  | function (name : String) (args : List Expr) (type : DataType)
  /-- Text that goes into the command as it stands. -/
  | fragment (sql : String) (type : DataType)
  | cast (expr : Expr) (sqlType : String) (type : DataType)
  | exists (select : Select)
  | isIn (value : Expr) (values : InValues)
  | aggregate (function : String) (arg : Expr) (distinct : Bool) (type : DataType)
  | subquery (kind : SubqueryKind) (select : Select) (type : DataType)
  | record (fields : List (String × Expr))
  | array (elements : List Expr) (type : DataType)
  | member (expr : Expr) (field : String) (type : DataType)
  /-- What a client body or a combination of two results is applied to. -/
  | parameter (index : UInt64) (type : DataType)
  /-- The side of an outer join that may be empty; `flag` is true when it is. -/
  | defaultIfEmpty (expr flag : Expr) (flagAlias : String)

/-- What a value is looked for in. -/
inductive InValues where
  | subquery (select : Select)
  | list (elements : List Expr)
  | constants (values : List Value)
  /-- A collection that is known only when the command is built. -/
  | dynamic (expr : Expr)

/-- The shape of the results of a select. -/
inductive Projection where
  /-- A shape over the columns of a row. -/
  | server (body : Expr)
  /-- A shape over the columns, transformed on the host by a body with one parameter. -/
  | client (server client : Expr)
  /-- Two shapes, combined on the host by a body with two parameters. -/
  | composite (outer inner : Projection) (result : Expr)

/-- What a select takes its rows from. What is not a join has an identity and an alias that it
prefers. -/
inductive Table where
  | base (id : TableId) (schema name preferred : String)
  | subquery (id : TableId) (preferred : String) (select : Select)
  | setOperation (id : TableId) (preferred : String) (op : SetOperator) (left right : Select)
  | join (kind : JoinKind) (outer inner : Table) (predicate : Expr)
  | cross (kind : CrossKind) (outer inner : Table)

/-- The terms by which rows are ordered, the first one innermost. -/
inductive OrderBy where
  | term (expr : Expr) (descending : Bool)
  | andThen (previous : OrderBy) (expr : Expr) (descending : Bool)

/-- A select block. -/
structure Select where
  projection : Projection
  table : Option Table
  predicate : Option Expr
  grouping : Option Expr
  ordering : Option OrderBy
  offset : Option Expr
  limit : Option Expr
  distinct : Bool

end

/-- The identity and preferred alias of a table that has them. -/
def Table.identity? : Table → Option (TableId × String)
  | .base id _ _ preferred | .subquery id preferred _ | .setOperation id preferred _ _ _ =>
    some (id, preferred)
  | .join .. | .cross .. => none

/-- Whether only the database can evaluate a node. -/
def Expr.isSqlNode : Expr → Bool
  | .column .. | .aliased .. | .function .. | .fragment .. | .cast .. | .exists _ | .isIn ..
  | .aggregate .. | .subquery .. => true
  | _ => false

/-- The name of a node, in messages. -/
def Expr.nodeName : Expr → String
  | .column .. => "column"
  | .aliased .. => "alias"
  | .constant .. => "constant"
  | .input .. => "input"
  | .binary .. => "binary"
  | .unary .. => "unary"
  | .conditional .. => "conditional"
  | .function .. => "function"
  | .fragment .. => "fragment"
  | .cast .. => "cast"
  | .exists _ => "exists"
  | .isIn .. => "in"
  | .aggregate .. => "aggregate"
  | .subquery .scalar _ _ => "scalar subquery"
  | .subquery .record _ _ => "complex subquery"
  | .subquery .collection _ _ => "collection subquery"
  | .record _ => "record construction"
  | .array .. => "array construction"
  | .member .. => "member access"
  | .parameter .. => "lambda parameter"
  | .defaultIfEmpty .. => "default-if-empty"

end SqlLowering
