import SqlLowering.Query.Basic

/-!
Why a query has no command.
-/

namespace SqlLowering

/-- Why a query could not be lowered. Nodes are given by their names. -/
inductive LowerError where
  /-- A node of the host where SQL has to stand. -/
  | nodeInSql (node : String)
  /-- A constant that SQL has no literal for. -/
  | constantInSql (kind : Kind)
  /-- An operator that SQL does not have. -/
  | operatorInSql (op : BinaryOp)
  | recordArity
  | emptyRecords
  | nodeInProjection (node : String)
  | nodeInClient (node : String)
  /-- A list to look into that is neither written out nor computed from inputs. -/
  | openList (node : String)
  /-- A column of a table that the query does not have. -/
  | unknownTable (id : TableId)
  /-- A nesting beyond the levels that were provided for. -/
  | tooDeep

namespace LowerError

/-- The wording of a construct that is refused. -/
def unsupportedText (construct : String) : String :=
  "Unsupported construct: " ++ construct

/-- The wording of an error. -/
def message : LowerError → String
  | .nodeInSql node => unsupportedText (node ++ " in SQL position")
  | .constantInSql kind => unsupportedText (kind.name ++ " constant in SQL position")
  | .operatorInSql op => unsupportedText ("binary operator " ++ op.name)
  | .recordArity => unsupportedText "comparison of records with different arity"
  | .emptyRecords => unsupportedText "comparison of empty records"
  | .nodeInProjection node => unsupportedText (node ++ " in a projection")
  | .nodeInClient node => unsupportedText (node ++ " in a client projection")
  | .openList node =>
    "IN list source is neither a literal, a subquery nor parameterizable: " ++ node
  | .unknownTable id => "Column refers to unknown table " ++ id.describe
  | .tooDeep => unsupportedText "nesting"

end LowerError

end SqlLowering
