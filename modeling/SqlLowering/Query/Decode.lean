import SqlLowering.Query.Encode

/-!
Queries from JSON. A node is found by the name of its variant, and its parts by their names in any
order; a part that is repeated is an error, and names that the node does not have are passed over.
Inside a node there is more freedom: a variant may be given by its place in the list of variants,
and an empty object may stand for null behind a name. Every decoder takes the depth to which
documents may nest as fuel, and is told whether it stands inside a node.
-/

namespace SqlLowering

/-- The set operator of a name. -/
def SetOperator.ofName? : String → Option SetOperator
  | "Union" => some .union
  | "UnionAll" => some .unionAll
  | "Intersect" => some .intersect
  | "Except" => some .except
  | _ => none

/-- The name that a document is, alone or with nothing more said about it. -/
def Json.name? (inner : Bool) : Json → Option String
  | .string name => some name
  | .object [(name, json)] => if json.saysNothing inner then some name else none
  | _ => none

/-- The set operator that a document denotes. -/
def SetOperator.decode (inner : Bool) (json : Json) : Option SetOperator :=
  (json.name? inner).bind SetOperator.ofName?

/-- The binary operator that a document denotes. -/
def BinaryOp.decode (inner : Bool) (json : Json) : Option BinaryOp :=
  (json.name? inner).bind BinaryOp.ofName?

/-- The unary operator that a document denotes. -/
def UnaryOp.decode (inner : Bool) : Json → Option UnaryOp
  | .object [("Convert", .object members)] => do
    let json ← Json.member? "ty" members
    return .convert (← DataType.decode inner json.height json)
  | json =>
    match json.name? inner with
    | some "Not" => some .not
    | some "Negate" => some .negate
    | _ => none

/-- The set operator that a document on its own denotes. -/
def SetOperator.ofJson? : Json → Option SetOperator :=
  SetOperator.decode false

/-- The binary operator that a document on its own denotes. -/
def BinaryOp.ofJson? : Json → Option BinaryOp :=
  BinaryOp.decode false

/-- The unary operator that a document on its own denotes. -/
def UnaryOp.ofJson? : Json → Option UnaryOp :=
  UnaryOp.decode false

/-- The identity that a document denotes. -/
def TableId.ofJson? (json : Json) : Option TableId :=
  (json.natBelow? (Nat.pow 2 32)).map fun n => ⟨n.toUInt32⟩

namespace Decode

/-- What a decoder reads from a member that has to be there. -/
def part {α : Type} (read : Json → Option α) (name : String) (members : List (String × Json)) :
    Option α :=
  (Json.member? name members).bind read

/-- What a decoder reads from a member that may be missing or null. -/
def optional {α : Type} (read : Json → Option α) (name : String)
    (members : List (String × Json)) : Option (Option α) :=
  match Json.memberOrNull? name members with
  | some .null => some none
  | some json => (read json).map some
  | none => none

/-- What a decoder reads from every item of an array. -/
def listOf {α : Type} (read : Json → Option α) : Json → Option (List α)
  | .array items => items.mapM read
  | _ => none

/-- What a decoder reads from a pair of a name and a document. -/
def namedBy {α : Type} (read : Json → Option α) : Json → Option (String × α)
  | .array [.string name, json] => (read json).map fun value => (name, value)
  | _ => none

/-- A text member. -/
def textPart : String → List (String × Json) → Option String :=
  part Json.string?

/-- A type member. -/
def typePart : String → List (String × Json) → Option DataType :=
  part DataType.ofPart?

/-- A truth member that is false when it is missing. -/
def flagPart : String → List (String × Json) → Option Bool :=
  Json.memberOr? false Json.bool?

/-- The name of a variant: as it is written, or inside a node also by its place among all names. -/
def variant (inner : Bool) (names : List String) (tag : String) (members : List (String × Json)) :
    Option String := do
  match ← Json.member? tag members with
  | .string name => some name
  | .int i => if inner && 0 ≤ i then names[i.toNat]? else none
  | _ => none

/-- The variants of expressions. -/
def exprNames : List String :=
  ["Column", "Alias", "Constant", "Input", "Binary", "Unary", "Conditional", "Function", "Fragment",
    "Cast", "Exists", "In", "Aggregate", "ScalarSubquery", "ComplexSubquery", "CollectionSubquery",
    "New", "ArrayInit", "Member", "Parameter", "DefaultIfEmpty"]

/-- The variants of what a value is looked for in. -/
def inValuesNames : List String :=
  ["Subquery", "List", "Constants", "Dynamic"]

/-- The variants of projections. -/
def projectionNames : List String :=
  ["Server", "Client", "Composite"]

/-- The variants of tables. -/
def tableNames : List String :=
  ["Base", "Subquery", "SetOperation", "InnerJoin", "LeftJoin", "CrossJoin", "CrossApply",
    "OuterApply"]

mutual

/-- The expression that a document denotes. -/
def expr (inner : Bool) : Nat → Json → Option Expr
  | fuel + 1, .object members => do
    match ← variant inner exprNames "type" members with
    | "Column" =>
      return .column (← part TableId.ofJson? "table" members) (← textPart "name" members)
        (← typePart "ty" members)
    | "Alias" =>
      return .aliased (← part (expr true fuel) "expr" members) (← textPart "alias" members)
    | "Constant" =>
      return .constant (← part Value.ofPart? "value" members) (← typePart "ty" members)
    | "Input" => return .input (← textPart "name" members) (← typePart "ty" members)
    | "Binary" =>
      return .binary (← part (BinaryOp.decode true) "op" members)
        (← part (expr true fuel) "left" members) (← part (expr true fuel) "right" members)
    | "Unary" =>
      return .unary (← part (UnaryOp.decode true) "op" members)
        (← part (expr true fuel) "operand" members)
    | "Conditional" =>
      return .conditional (← part (expr true fuel) "test" members)
        (← part (expr true fuel) "if_true" members) (← part (expr true fuel) "if_false" members)
    | "Function" =>
      return .function (← textPart "name" members)
        (← Json.memberOr? [] (listOf (expr true fuel)) "args" members) (← typePart "ty" members)
    | "Fragment" => return .fragment (← textPart "sql" members) (← typePart "ty" members)
    | "Cast" =>
      return .cast (← part (expr true fuel) "expr" members) (← textPart "sql_type" members)
        (← typePart "ty" members)
    | "Exists" => return .exists (← part (select true fuel) "select" members)
    | "In" =>
      return .isIn (← part (expr true fuel) "value" members)
        (← part (inValues true fuel) "values" members)
    | "Aggregate" =>
      return .aggregate (← textPart "function" members) (← part (expr true fuel) "arg" members)
        (← flagPart "distinct" members) (← typePart "ty" members)
    | "ScalarSubquery" =>
      return .subquery .scalar (← part (select true fuel) "select" members)
        (← typePart "ty" members)
    | "ComplexSubquery" =>
      return .subquery .record (← part (select true fuel) "select" members)
        (← typePart "ty" members)
    | "CollectionSubquery" =>
      return .subquery .collection (← part (select true fuel) "select" members)
        (← typePart "ty" members)
    | "New" => return .record (← part (listOf (namedBy (expr true fuel))) "fields" members)
    | "ArrayInit" =>
      return .array (← part (listOf (expr true fuel)) "elements" members) (← typePart "ty" members)
    | "Member" =>
      return .member (← part (expr true fuel) "expr" members) (← textPart "field" members)
        (← typePart "ty" members)
    | "Parameter" =>
      return .parameter (← part (Json.natBelow? (Nat.pow 2 64)) "index" members).toUInt64
        (← typePart "ty" members)
    | "DefaultIfEmpty" =>
      return .defaultIfEmpty (← part (expr true fuel) "expr" members)
        (← part (expr true fuel) "flag" members) (← textPart "flag_alias" members)
    | _ => none
  | _, _ => none

/-- What a value is looked for in, as a document denotes it. -/
def inValues (inner : Bool) : Nat → Json → Option InValues
  | fuel + 1, .object members => do
    match ← variant inner inValuesNames "kind" members with
    | "Subquery" => return .subquery (← part (select true fuel) "select" members)
    | "List" => return .list (← part (listOf (expr true fuel)) "elements" members)
    | "Constants" => return .constants (← part (listOf Value.ofPart?) "values" members)
    | "Dynamic" => return .dynamic (← part (expr true fuel) "expr" members)
    | _ => none
  | _, _ => none

/-- The projection that a document denotes. -/
def projection (inner : Bool) : Nat → Json → Option Projection
  | fuel + 1, .object members => do
    match ← variant inner projectionNames "type" members with
    | "Server" => return .server (← part (expr true fuel) "body" members)
    | "Client" =>
      return .client (← part (expr true fuel) "server" members)
        (← part (expr true fuel) "client" members)
    | "Composite" =>
      return .composite (← part (projection true fuel) "outer" members)
        (← part (projection true fuel) "inner" members) (← part (expr true fuel) "result" members)
    | _ => none
  | _, _ => none

/-- The table that a document denotes. -/
def table (inner : Bool) : Nat → Json → Option Table
  | fuel + 1, .object members => do
    match ← variant inner tableNames "type" members with
    | "Base" =>
      return .base (← part TableId.ofJson? "id" members) (← textPart "schema" members)
        (← textPart "name" members) (← textPart "alias" members)
    | "Subquery" =>
      return .subquery (← part TableId.ofJson? "id" members) (← textPart "alias" members)
        (← part (select true fuel) "select" members)
    | "SetOperation" =>
      return .setOperation (← part TableId.ofJson? "id" members) (← textPart "alias" members)
        (← part (SetOperator.decode true) "operator" members)
        (← part (select true fuel) "left" members) (← part (select true fuel) "right" members)
    | "InnerJoin" =>
      return .join .inner (← part (table true fuel) "outer" members)
        (← part (table true fuel) "inner" members) (← part (expr true fuel) "predicate" members)
    | "LeftJoin" =>
      return .join .left (← part (table true fuel) "outer" members)
        (← part (table true fuel) "inner" members) (← part (expr true fuel) "predicate" members)
    | "CrossJoin" =>
      return .cross .crossJoin (← part (table true fuel) "outer" members)
        (← part (table true fuel) "inner" members)
    | "CrossApply" =>
      return .cross .crossApply (← part (table true fuel) "outer" members)
        (← part (table true fuel) "inner" members)
    | "OuterApply" =>
      return .cross .outerApply (← part (table true fuel) "outer" members)
        (← part (table true fuel) "inner" members)
    | _ => none
  | _, _ => none

/-- The ordering that a document denotes. -/
def orderBy (inner : Bool) : Nat → Json → Option OrderBy
  | fuel + 1, .object members => do
    let term ← part (expr inner fuel) "expr" members
    let descending ← flagPart "descending" members
    match ← optional (orderBy inner fuel) "previous" members with
    | none => return .term term descending
    | some previous => return .andThen previous term descending
  | _, _ => none

/-- The select that a document denotes. -/
def select (inner : Bool) : Nat → Json → Option Select
  | fuel + 1, .object members =>
    return {
      projection := ← part (projection inner fuel) "projection" members
      table := ← optional (table inner fuel) "table" members
      predicate := ← optional (expr inner fuel) "predicate" members
      grouping := ← optional (expr inner fuel) "grouping" members
      ordering := ← optional (orderBy inner fuel) "ordering" members
      offset := ← optional (expr inner fuel) "offset" members
      limit := ← optional (expr inner fuel) "limit" members
      distinct := ← flagPart "distinct" members }
  | _, _ => none

end

end Decode

/-- The expression that a document denotes. -/
def Expr.ofJson? (json : Json) : Option Expr :=
  Decode.expr false json.height json

/-- What a value is looked for in, as a document denotes it. -/
def InValues.ofJson? (json : Json) : Option InValues :=
  Decode.inValues false json.height json

/-- The projection that a document denotes. -/
def Projection.ofJson? (json : Json) : Option Projection :=
  Decode.projection false json.height json

/-- The table that a document denotes. -/
def Table.ofJson? (json : Json) : Option Table :=
  Decode.table false json.height json

/-- The ordering that a document denotes. -/
def OrderBy.ofJson? (json : Json) : Option OrderBy :=
  Decode.orderBy false json.height json

/-- The select that a document denotes. -/
def Select.ofJson? (json : Json) : Option Select :=
  Decode.select false json.height json

end SqlLowering
