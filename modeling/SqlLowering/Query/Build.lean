import SqlLowering.Query.Typing

/-!
Building queries from their parts.
-/

namespace SqlLowering

namespace Expr

/-- An integer constant. -/
def int (i : Int64) : Expr :=
  .constant (.int i) .int32

/-- A text constant. -/
def text (s : String) : Expr :=
  .constant (.string s) .string

/-- A truth constant. -/
def truth (b : Bool) : Expr :=
  .constant (.bool b) .bool

/-- The missing value of a type. -/
def null (type : DataType) : Expr :=
  .constant .null type

/-- The test that two expressions are equal. -/
def eq (left right : Expr) : Expr :=
  .binary .equal left right

/-- The test that one expression is greater than another. -/
def gt (left right : Expr) : Expr :=
  .binary .greaterThan left right

/-- Both of two tests. -/
def and (left right : Expr) : Expr :=
  .binary .and left right

/-- The opposite of a test. -/
def not (operand : Expr) : Expr :=
  .unary .not operand

/-- An aggregate over all values. -/
def aggregateOf (function : String) (arg : Expr) (type : DataType) : Expr :=
  .aggregate function arg false type

/-- A field of a record, with the type that the record gives it. -/
def memberOf? (expr : Expr) (field : String) : Option Expr :=
  (expr.type.field? field).map fun found => .member expr field found.type

end Expr

namespace OrderBy

/-- A chain of terms from the first on, if there is one. -/
def chain? (terms : List (Expr × Bool)) : Option OrderBy :=
  terms.foldl
    (fun previous (expr, descending) =>
      match previous with
      | none => some (.term expr descending)
      | some previous => some (.andThen previous expr descending))
    none

end OrderBy

namespace Select

/-- A select of a projection and nothing else. -/
def of (projection : Projection) : Select where
  projection := projection
  table := none
  predicate := none
  grouping := none
  ordering := none
  offset := none
  limit := none
  distinct := false

/-- The select over a table. -/
def fromTable (select : Select) (table : Table) : Select :=
  { select with table := some table }

/-- The select of the rows for which a predicate holds. -/
def filter (select : Select) (predicate : Expr) : Select :=
  { select with predicate := some predicate }

/-- The select with its rows grouped by a key. -/
def groupBy (select : Select) (key : Expr) : Select :=
  { select with grouping := some key }

/-- The select with its rows in an order. -/
def orderBy (select : Select) (ordering : OrderBy) : Select :=
  { select with ordering := some ordering }

/-- The select without its first rows. -/
def skip (select : Select) (offset : Expr) : Select :=
  { select with offset := some offset }

/-- The select of at most some number of rows. -/
def take (select : Select) (limit : Expr) : Select :=
  { select with limit := some limit }

/-- The select without repeated rows. -/
def withoutRepeats (select : Select) : Select :=
  { select with distinct := true }

end Select

/-- The next identity to hand out. -/
structure TableIds where
  next : TableId

namespace TableIds

/-- Identities from zero on. -/
def start : TableIds :=
  ⟨⟨0⟩⟩

/-- A fresh identity. -/
def fresh (ids : TableIds) : TableId × TableIds :=
  (ids.next, ⟨⟨ids.next.val + 1⟩⟩)

end TableIds

end SqlLowering
