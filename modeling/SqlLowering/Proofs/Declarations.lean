import SqlLowering.Proofs.Parts
import SqlLowering.Query.Declarations

/-!
# The tables of a query are all gathered

The declarations of a query are gathered by a traversal with one case for each kind of node.
`Part.mem_declarations_of_child` says once that no case forgets a child, so every table that stands
anywhere in a part, however deep, is among the declarations of the part.
-/

namespace SqlLowering

namespace Part

/-- The tables that a part declares, with the aliases that they prefer. -/
def declarations : Part → List (TableId × String)
  | .expr e => e.declarations
  | .values vs => vs.declarations
  | .projection p => p.declarations
  | .table t => t.declarations
  | .ordering o => o.declarations
  | .select s => s.declarations

end Part

section Declarations

variable {entry : TableId × String}

theorem Expr.mem_listDeclarations {exprs : List Expr} {expr : Expr} (member : expr ∈ exprs)
    (declared : entry ∈ expr.declarations) : entry ∈ Expr.listDeclarations exprs := by
  induction exprs with
  | nil => cases member
  | cons first rest ih =>
    rw [Expr.listDeclarations]
    rcases List.mem_cons.1 member with rfl | later
    · exact List.mem_append_left _ declared
    · exact List.mem_append_right _ (ih later)

theorem Expr.mem_fieldDeclarations {fields : List (String × Expr)} {field : String × Expr}
    (member : field ∈ fields) (declared : entry ∈ field.2.declarations) :
    entry ∈ Expr.fieldDeclarations fields := by
  induction fields with
  | nil => cases member
  | cons first rest ih =>
    rw [Expr.fieldDeclarations]
    rcases List.mem_cons.1 member with rfl | later
    · exact List.mem_append_left _ declared
    · exact List.mem_append_right _ (ih later)

/-- What is declared in a child of an expression is declared in the expression. -/
theorem Expr.mem_declarations_of_child {expr : Expr} {child : Part}
    (member : child ∈ expr.children) (declared : entry ∈ child.declarations) :
    entry ∈ expr.declarations := by
  cases expr with
  | column _ _ _ | constant _ _ | input _ _ | fragment _ _ | parameter _ _ => cases member
  | aliased inner _ | cast inner _ _ | member inner _ _ | aggregate _ inner _ _ | unary _ inner
  | «exists» inner | subquery _ inner _ =>
    obtain rfl := List.mem_singleton.1 member
    exact declared
  | binary _ left right | defaultIfEmpty right left _ | isIn left right =>
    simp only [Expr.children, List.mem_cons, List.not_mem_nil, or_false] at member
    rw [Expr.declarations]
    rcases member with rfl | rfl
    · exact List.mem_append_left _ declared
    · exact List.mem_append_right _ declared
  | conditional test ifTrue ifFalse =>
    simp only [Expr.children, List.mem_cons, List.not_mem_nil, or_false] at member
    rw [Expr.declarations]
    rcases member with rfl | rfl | rfl
    · exact List.mem_append_left _ (List.mem_append_left _ declared)
    · exact List.mem_append_left _ (List.mem_append_right _ declared)
    · exact List.mem_append_right _ declared
  | function _ exprs _ | array exprs _ =>
    obtain ⟨expr, listed, rfl⟩ := List.mem_map.1 member
    exact Expr.mem_listDeclarations listed declared
  | record fields =>
    obtain ⟨field, listed, rfl⟩ := List.mem_map.1 member
    exact Expr.mem_fieldDeclarations listed declared

/-- What is declared in a child of a table is declared in the table. -/
theorem Table.mem_declarations_of_child {table : Table} {child : Part}
    (member : child ∈ table.children) (declared : entry ∈ child.declarations) :
    entry ∈ table.declarations := by
  cases table with
  | base _ _ _ _ => cases member
  | subquery _ _ select =>
    obtain rfl := List.mem_singleton.1 member
    exact List.mem_cons_of_mem _ declared
  | setOperation _ _ _ left right =>
    simp only [Table.children, List.mem_cons, List.not_mem_nil, or_false] at member
    rw [Table.declarations]
    rcases member with rfl | rfl
    · exact List.mem_cons_of_mem _ (List.mem_append_left _ declared)
    · exact List.mem_cons_of_mem _ (List.mem_append_right _ declared)
  | join _ outer inner predicate =>
    simp only [Table.children, List.mem_cons, List.not_mem_nil, or_false] at member
    rw [Table.declarations]
    rcases member with rfl | rfl | rfl
    · exact List.mem_append_left _ (List.mem_append_left _ declared)
    · exact List.mem_append_left _ (List.mem_append_right _ declared)
    · exact List.mem_append_right _ declared
  | cross _ outer inner =>
    simp only [Table.children, List.mem_cons, List.not_mem_nil, or_false] at member
    rw [Table.declarations]
    rcases member with rfl | rfl
    · exact List.mem_append_left _ declared
    · exact List.mem_append_right _ declared

theorem Select.mem_declarations_of_child {select : Select} {child : Part}
    (member : child ∈ select.children) (declared : entry ∈ child.declarations) :
    entry ∈ select.declarations := by
  obtain ⟨projection, table, predicate, grouping, ordering, offset, limit, distinct⟩ := select
  simp only [Select.children, Select.clauses, List.mem_cons, List.mem_append, List.mem_map,
    Option.mem_toList] at member
  rcases member with rfl | ⟨_, rfl, rfl⟩ |
    (((⟨_, rfl, rfl⟩ | ⟨_, rfl, rfl⟩) | ⟨_, rfl, rfl⟩) | ⟨_, rfl, rfl⟩) | ⟨_, rfl, rfl⟩
  all_goals
    simp only [Part.declarations] at declared
    simp [Select.declarations, Expr.optionDeclarations, Table.optionDeclarations,
      OrderBy.optionDeclarations, declared]

/-- What a child declares, the part declares. -/
theorem Part.mem_declarations_of_child {part child : Part} (member : child ∈ part.children)
    (declared : entry ∈ child.declarations) : entry ∈ part.declarations := by
  cases part with
  | expr expr => exact Expr.mem_declarations_of_child member declared
  | values values =>
    cases values with
    | subquery select | dynamic source =>
      obtain rfl := List.mem_singleton.1 member
      exact declared
    | list elements =>
      obtain ⟨element, listed, rfl⟩ := List.mem_map.1 member
      exact Expr.mem_listDeclarations listed declared
    | constants _ => cases member
  | projection projection =>
    simp only [Part.declarations]
    cases projection with
    | server body =>
      obtain rfl := List.mem_singleton.1 member
      exact declared
    | client body after =>
      simp only [Part.children, Projection.children, List.mem_cons, List.not_mem_nil, or_false]
        at member
      rw [Projection.declarations]
      rcases member with rfl | rfl
      · exact List.mem_append_left _ declared
      · exact List.mem_append_right _ declared
    | composite outer inner result =>
      simp only [Part.children, Projection.children, List.mem_cons, List.not_mem_nil, or_false]
        at member
      rw [Projection.declarations]
      rcases member with rfl | rfl | rfl
      · exact List.mem_append_left _ (List.mem_append_left _ declared)
      · exact List.mem_append_left _ (List.mem_append_right _ declared)
      · exact List.mem_append_right _ declared
  | table table => exact Table.mem_declarations_of_child member declared
  | ordering ordering =>
    simp only [Part.declarations]
    cases ordering with
    | term expr _ =>
      obtain rfl := List.mem_singleton.1 member
      exact declared
    | andThen previous expr _ =>
      simp only [Part.children, OrderBy.children, List.mem_cons, List.not_mem_nil, or_false]
        at member
      rw [OrderBy.declarations]
      rcases member with rfl | rfl
      · exact List.mem_append_left _ declared
      · exact List.mem_append_right _ declared
  | select select => exact Select.mem_declarations_of_child member declared

theorem Table.mem_declarations_of_identity {table : Table} (own : table.identity? = some entry) :
    entry ∈ table.declarations := by
  cases table with
  | base _ _ _ _ | subquery _ _ _ | setOperation _ _ _ _ _ =>
    cases own
    exact List.mem_cons_self
  | join _ _ _ _ | cross _ _ _ => cases own

/-- A table with an identity is declared by whatever it stands in. -/
theorem Part.mem_declarations_of_contains {part : Part} {table : Table}
    (contains : part.Contains (.table table)) (own : table.identity? = some entry) :
    entry ∈ part.declarations := by
  induction contains using Relation.ReflTransGen.head_induction_on with
  | refl => exact Table.mem_declarations_of_identity own
  | head member _ ih => exact Part.mem_declarations_of_child member ih

end Declarations

end SqlLowering
