import SqlLowering.Query.Evaluation
import SqlLowering.Json.Parser
import SqlLowering.Value.Document

/-!
Plans: how one result is rebuilt from one row. A plan reads columns by their position and puts
records, arrays and operators of the host around them.
-/

namespace SqlLowering

/-- A plan. -/
inductive Plan where
  | readColumn (ordinal : Nat) (type : DataType)
  /-- A column that holds a document. -/
  | decodeSubDocument (ordinal : Nat) (type : DataType)
  /-- The value `default` when the flag column reads true, `inner` otherwise. -/
  | defaultIfEmpty (flagOrdinal : Nat) (default : Value) (inner : Plan)
  | construct (fields : List (String × Plan))
  /-- The plan `body` with the results of `inputs` bound by position. -/
  | combine (inputs : List Plan) (body : Plan)
  | bound (index : UInt64)
  | field (source : Plan) (name : String)
  | array (elements : List Plan)
  | constant (value : Value)
  | binary (op : BinaryOp) (left right : Plan)
  | unary (op : UnaryOp) (operand : Plan)
  | conditional (test ifTrue ifFalse : Plan)
  /-- An expression over the inputs alone. -/
  | evaluate (expr : Expr)

/-- Access to a field, which is the field itself when the record is constructed in place. -/
def Plan.access (source : Plan) (name : String) : Plan :=
  match source with
  | .construct fields => (fields.lookup name).getD (.field (.construct fields) name)
  | source => .field source name

/-- Why a row yields no result. -/
inductive RowError where
  | columnOutOfRange (ordinal count : Nat)
  | column (ordinal : Nat) (error : ValueError)
  | subDocument (ordinal : Nat)
  | subDocumentShape (ordinal : Nat) (error : ValueError)
  | unboundParameter (index : UInt64)
  | eval (error : EvalError)

/-- The wording of an error. -/
def RowError.message : RowError → String
  | .columnOutOfRange ordinal count =>
    "Column ordinal " ++ toString ordinal ++ " out of range (" ++ toString count ++ " columns)"
  | .column ordinal error => "Column " ++ toString ordinal ++ ": " ++ error.message
  | .subDocument ordinal =>
    "Sub-document in column " ++ toString ordinal ++ " is not valid JSON"
  | .subDocumentShape ordinal error =>
    "Sub-document in column " ++ toString ordinal ++ " does not match its type: " ++ error.message
  | .unboundParameter index => "Unbound lambda parameter " ++ toString index.toNat
  | .eval error => error.message

/-- The values of one row, by position. -/
abbrev Row := List Value

namespace Row

/-- The value of a column as one of a type. -/
def read (row : Row) (ordinal : Nat) (type : DataType) : Except RowError Value :=
  match row[ordinal]? with
  | some value => (value.coerce type).mapError (.column ordinal)
  | none => .error (.columnOutOfRange ordinal row.length)

/-- What a column without a document stands for: no elements, or null. -/
def absentDocument : DataType → Value
  | .collection _ => .array []
  | _ => .null

/-- The value of a column that holds a document of a type. -/
def decode (row : Row) (ordinal : Nat) (type : DataType) : Except RowError Value := do
  match ← row.read ordinal .string with
  | .string text =>
    match Json.parse? text with
    | some json => (Value.ofJson type json).mapError (.subDocumentShape ordinal)
    | none => .error (.subDocument ordinal)
  | _ => return absentDocument type

end Row

mutual

/-- The result of a plan for a row, with the inputs of the query and the values bound around it. -/
def Plan.run (row : Row) (inputs : Inputs) (values : List Value) :
    Plan → Except RowError Value
  | .readColumn ordinal type => row.read ordinal type
  | .decodeSubDocument ordinal type => row.decode ordinal type
  | .defaultIfEmpty flagOrdinal default inner => do
    match ← row.read flagOrdinal .bool with
    | .bool true => return default
    | _ => inner.run row inputs values
  | .construct fields => return .record (← Plan.runFields row inputs values fields)
  | .combine parts body => do body.run row inputs (← Plan.runList row inputs values parts)
  | .bound index =>
    match values[index.toNat]? with
    | some value => .ok value
    | none => .error (.unboundParameter index)
  | .field source name => do
    ((← source.run row inputs values).project name).mapError .eval
  | .array elements => return .array (← Plan.runList row inputs values elements)
  | .constant value => .ok value
  | .binary op left right => do
    op.apply .eval (← left.run row inputs values) fun _ => right.run row inputs values
  | .unary op operand => do (op.apply (← operand.run row inputs values)).mapError .eval
  | .conditional test ifTrue ifFalse => do
    if ← (← test.run row inputs values).holds.mapError .eval then
      ifTrue.run row inputs values
    else
      ifFalse.run row inputs values
  | .evaluate expr => (expr.eval inputs).mapError .eval

/-- The results of plans, from the first on. -/
def Plan.runList (row : Row) (inputs : Inputs) (values : List Value) :
    List Plan → Except RowError (List Value)
  | [] => .ok []
  | plan :: rest => do
    return (← plan.run row inputs values) :: (← Plan.runList row inputs values rest)

/-- The results of named plans, from the first on. -/
def Plan.runFields (row : Row) (inputs : Inputs) (values : List Value) :
    List (String × Plan) → Except RowError (List (String × Value))
  | [] => .ok []
  | (name, plan) :: rest => do
    return (name, ← plan.run row inputs values) :: (← Plan.runFields row inputs values rest)

end

/-- The result for a row, with nothing bound around the plan. -/
def Plan.materialize (plan : Plan) (row : Row) (inputs : Inputs) : Except RowError Value :=
  plan.run row inputs []

end SqlLowering
