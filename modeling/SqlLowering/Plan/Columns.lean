import SqlLowering.Lowering.Error
import SqlLowering.Plan.Basic
import SqlLowering.Query.Placement

/-!
Columns of a shape. The parts of a shape that the database evaluates become columns, in the order in
which they are met, and a plan rebuilds the shape from them.

A column is named for the path to it through the records of the shape. Under a node of the host,
such as an array over columns, there is no name for each column: those are numbered `$1`, `$2`, …,
and a record among them has numbers of its own.
-/

namespace SqlLowering

/-- A column of a select; a single unnamed value has the empty name. -/
structure Column where
  name : String
  expr : Expr

/-- Two parts of a path; an empty part leaves no trace. -/
def joinPath (path name : String) : String :=
  if path.isEmpty then name
  else if name.isEmpty then path
  else path ++ "." ++ name

/-- The name of a path. -/
def pathName (path : List String) : String :=
  ".".intercalate path

/-- What has been flattened so far: the columns, and how many of them were numbered under the
current node of the host. -/
structure Collected where
  columns : List Column
  numbered : Nat

namespace Collected

/-- Nothing flattened. -/
def empty : Collected :=
  ⟨[], 0⟩

/-- One more column. -/
def add (g : Collected) (name : String) (expr : Expr) : Collected :=
  { g with columns := g.columns ++ [⟨name, expr⟩] }

/-- One more column, named for a path or, under a node of the host, for its number. -/
def addAt (g : Collected) (path : List String) (hosted : Bool) (expr : Expr) : Collected :=
  if hosted then
    let counted := { g with numbered := g.numbered + 1 }
    counted.add (joinPath (pathName path) ("$" ++ toString counted.numbered)) expr
  else
    g.add (pathName path) expr

/-- The state in which the parts of a node of the host are flattened: the outermost one starts to
count. -/
def underHost (g : Collected) (hosted : Bool) : Collected :=
  if hosted then g else { g with numbered := 0 }

end Collected

/-- How the column of an expression is read. -/
def Expr.reading (ordinal : Nat) : Expr → Plan
  | .subquery .scalar _ type =>
    if type.isScalar then .readColumn ordinal type else .decodeSubDocument ordinal type
  | .subquery _ _ type => .decodeSubDocument ordinal type
  | other => .readColumn ordinal other.type

/-- The flattening of an expression that is not taken apart: one that depends on inputs only is left
to the host, a constant under a node of the host too, and what can be written as SQL is a column. -/
def Expr.collectWhole? (path : List String) (hosted : Bool) (expr : Expr) (g : Collected) :
    Option (Plan × Collected) :=
  if expr.isParameterizable then some (.evaluate expr, g)
  else match hosted, expr with
    | true, .constant value _ => some (.constant value, g)
    | hosted, expr =>
      if expr.isRenderable then
        some (expr.reading g.columns.length, g.addAt path hosted expr)
      else none

mutual

/-- The plan of an expression, and what has been flattened after it. -/
def Expr.collect (path : List String) (hosted : Bool) :
    Expr → Collected → Except LowerError (Plan × Collected)
  | .record fields, g => do
    let (plans, after) ← Expr.collectFields path hosted fields { g with numbered := 0 }
    return (.construct plans, { after with numbered := g.numbered })
  | .defaultIfEmpty expr flag flagAlias, g => do
    let flagged := g.add (joinPath (pathName path) flagAlias) flag
    let (inner, after) ← expr.collect path hosted flagged
    return (.defaultIfEmpty g.columns.length expr.type.defaultValue inner, after)
  | .member expr field type, g =>
    match (Expr.member expr field type).collectWhole? path hosted g with
    | some whole => .ok whole
    | none => do
      let (source, after) ← expr.collect path true (g.underHost hosted)
      return (source.access field, after)
  | .array elements type, g =>
    match (Expr.array elements type).collectWhole? path hosted g with
    | some whole => .ok whole
    | none => do
      let (plans, after) ← Expr.collectList path elements (g.underHost hosted)
      return (.array plans, after)
  | .binary op left right, g =>
    match (Expr.binary op left right).collectWhole? path hosted g with
    | some whole => .ok whole
    | none => do
      let (lhs, afterLeft) ← left.collect path true (g.underHost hosted)
      let (rhs, afterRight) ← right.collect path true afterLeft
      return (.binary op lhs rhs, afterRight)
  | .unary op operand, g =>
    match (Expr.unary op operand).collectWhole? path hosted g with
    | some whole => .ok whole
    | none => do
      let (plan, after) ← operand.collect path true (g.underHost hosted)
      return (.unary op plan, after)
  | .conditional test ifTrue ifFalse, g =>
    match (Expr.conditional test ifTrue ifFalse).collectWhole? path hosted g with
    | some whole => .ok whole
    | none => do
      let (testPlan, afterTest) ← test.collect path true (g.underHost hosted)
      let (truePlan, afterTrue) ← ifTrue.collect path true afterTest
      let (falsePlan, afterFalse) ← ifFalse.collect path true afterTrue
      return (.conditional testPlan truePlan falsePlan, afterFalse)
  | other, g =>
    match other.collectWhole? path hosted g with
    | some whole => .ok whole
    | none => .error (.nodeInProjection other.nodeName)

/-- The plans of the elements of an array, which are under a node of the host. -/
def Expr.collectList (path : List String) :
    List Expr → Collected → Except LowerError (List Plan × Collected)
  | [], g => .ok ([], g)
  | expr :: rest, g => do
    let (plan, after) ← expr.collect path true g
    let (plans, last) ← Expr.collectList path rest after
    return (plan :: plans, last)

/-- The plans of the fields of a record, each under its name. -/
def Expr.collectFields (path : List String) (hosted : Bool) :
    List (String × Expr) → Collected → Except LowerError (List (String × Plan) × Collected)
  | [], g => .ok ([], g)
  | (name, expr) :: rest, g => do
    let (plan, after) ← expr.collect (path ++ [name]) hosted g
    let (plans, last) ← Expr.collectFields path hosted rest after
    return ((name, plan) :: plans, last)

end

/-- The columns of a key by which rows are grouped. -/
def Expr.groupingKeys (key : Expr) : Except LowerError (List Expr) := do
  let (_, g) ← key.collect [] false .empty
  return g.columns.map (·.expr)

end SqlLowering
