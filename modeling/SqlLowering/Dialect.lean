import SqlLowering.Text.Basic

/-!
What differs between SQL engines, in one record.
-/

namespace SqlLowering

/-- Where a select says how many rows it yields. -/
inductive LimitPlacement where
  /-- In front: `SELECT TOP (n) …`. -/
  | top
  /-- At the end: `… OFFSET m ROWS FETCH NEXT n ROWS ONLY`. -/
  | offsetFetch
  /-- At the end: `… LIMIT n OFFSET m`. -/
  | limitOffset
deriving DecidableEq, Repr

/-- The single quote. -/
def singleQuote : Char := '\x27'

/-- A dialect of SQL. -/
structure Dialect where
  name : String
  /-- An identifier, quoted. -/
  quoteIdentifier : String → String
  /-- The placeholder of a parameter. -/
  placeholder : String → String
  /-- Where the limit goes, in a select with an offset or without. -/
  limitPlacement : Bool → LimitPlacement
  /-- The clause that makes one document of the rows of a subquery. -/
  subDocumentDirective : String
  /-- A text literal. -/
  stringLiteral : String → String := Text.quoted "'" singleQuote
  /-- The ordering that an offset needs where the query has none. -/
  constantOrdering : String := "(SELECT 1)"
  /-- The type in which the outermost select returns truth values. -/
  booleanStorageType : String := "BIT"
  /-- The rows that stand for a list without elements. -/
  emptyList : String := "SELECT NULL WHERE 1 = 0"

namespace Dialect

/-- Transact-SQL. -/
def sqlServer : Dialect where
  name := "sqlserver"
  quoteIdentifier := Text.quoted "[" ']'
  placeholder name := "@" ++ name
  limitPlacement hasOffset := if hasOffset then .offsetFetch else .top
  subDocumentDirective := "FOR JSON PATH"
  stringLiteral := Text.quoted "N'" singleQuote

/-- The dialect of a configured name, in any letter case. -/
def ofName? (name : String) : Option Dialect :=
  if name.toLower = "sqlserver" ∨ name.toLower = "mssql" ∨ name.toLower = "tsql" then
    some sqlServer
  else
    none

end Dialect

end SqlLowering
