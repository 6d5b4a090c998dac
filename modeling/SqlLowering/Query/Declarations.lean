import SqlLowering.Query.Basic

/-!
Declared tables: every table, subquery and set operation of a query, wherever it stands, with the
alias that it would like to have.
-/

namespace SqlLowering

mutual

/-- The tables that an expression declares in its subqueries, with their preferred aliases. -/
def Expr.declarations : Expr → List (TableId × String)
  | .column .. | .constant .. | .input .. | .fragment .. | .parameter .. => []
  | .aliased expr _ | .cast expr _ _ | .member expr _ _ | .aggregate _ expr _ _
  | .unary _ expr => expr.declarations
  | .binary _ left right => left.declarations ++ right.declarations
  | .conditional test ifTrue ifFalse =>
    test.declarations ++ ifTrue.declarations ++ ifFalse.declarations
  | .function _ exprs _ | .array exprs _ => Expr.listDeclarations exprs
  | .record fields => Expr.fieldDeclarations fields
  | .defaultIfEmpty expr flag _ => flag.declarations ++ expr.declarations
  | .exists select | .subquery _ select _ => select.declarations
  | .isIn value values => value.declarations ++ values.declarations

/-- The tables that expressions declare. -/
def Expr.listDeclarations : List Expr → List (TableId × String)
  | [] => []
  | expr :: rest => expr.declarations ++ Expr.listDeclarations rest

/-- The tables that named expressions declare. -/
def Expr.fieldDeclarations : List (String × Expr) → List (TableId × String)
  | [] => []
  | (_, expr) :: rest => expr.declarations ++ Expr.fieldDeclarations rest

/-- The tables that an expression declares, if there is one. -/
def Expr.optionDeclarations : Option Expr → List (TableId × String)
  | some expr => expr.declarations
  | none => []

/-- The tables declared in what a value is looked for in. -/
def InValues.declarations : InValues → List (TableId × String)
  | .subquery select => select.declarations
  | .list elements => Expr.listDeclarations elements
  | .dynamic expr => expr.declarations
  | .constants _ => []

/-- The tables that a projection declares. -/
def Projection.declarations : Projection → List (TableId × String)
  | .server body => body.declarations
  | .client body after => body.declarations ++ after.declarations
  | .composite outer inner result =>
    outer.declarations ++ inner.declarations ++ result.declarations

/-- The tables that a table is made of, itself first. -/
def Table.declarations : Table → List (TableId × String)
  | .base id _ _ preferred => [(id, preferred)]
  | .subquery id preferred select => (id, preferred) :: select.declarations
  | .setOperation id preferred _ left right =>
    (id, preferred) :: (left.declarations ++ right.declarations)
  | .join _ outer inner predicate =>
    outer.declarations ++ inner.declarations ++ predicate.declarations
  | .cross _ outer inner => outer.declarations ++ inner.declarations

/-- The tables that a table is made of, if there is one. -/
def Table.optionDeclarations : Option Table → List (TableId × String)
  | some table => table.declarations
  | none => []

/-- The tables that an ordering declares. -/
def OrderBy.declarations : OrderBy → List (TableId × String)
  | .term expr _ => expr.declarations
  | .andThen previous expr _ => previous.declarations ++ expr.declarations

/-- The tables that an ordering declares, if there is one. -/
def OrderBy.optionDeclarations : Option OrderBy → List (TableId × String)
  | some ordering => ordering.declarations
  | none => []

/-- All tables that a select declares, with their preferred aliases. A table that is declared twice
goes by its first declaration. -/
def Select.declarations : Select → List (TableId × String)
  | ⟨projection, table, predicate, grouping, ordering, offset, limit, _⟩ =>
    projection.declarations ++ Table.optionDeclarations table ++
      Expr.optionDeclarations predicate ++ Expr.optionDeclarations grouping ++
      Expr.optionDeclarations offset ++ Expr.optionDeclarations limit ++
      OrderBy.optionDeclarations ordering

end

end SqlLowering
