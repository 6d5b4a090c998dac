import SqlLowering.Plan.Projection
import SqlLowering.Proofs.Outcome
import SqlLowering.Query.Declarations
import SqlLowering.Query.Depth

/-!
# Other identities for tables

A renaming gives every table of a query another identity, where it is declared and where columns
refer to it. Nothing in the flattening of a query looks at an identity: types, places and depths
stay as they are, what is on the host mentions no tables at all, and the columns of a shape are the
renamed columns, with the same plan (`Projection.renames_flatten`).
-/

namespace SqlLowering

/-! ## Renamed queries -/

mutual

/-- An expression with other identities for its tables. -/
def Expr.rename (r : TableId → TableId) : Expr → Expr
  | .column table name type => .column (r table) name type
  | .aliased expr name => .aliased (expr.rename r) name
  | .constant value type => .constant value type
  | .input name type => .input name type
  | .binary op left right => .binary op (left.rename r) (right.rename r)
  | .unary op operand => .unary op (operand.rename r)
  | .conditional test ifTrue ifFalse =>
    .conditional (test.rename r) (ifTrue.rename r) (ifFalse.rename r)
  | .function name args type => .function name (Expr.renameList r args) type
  | .fragment sql type => .fragment sql type
  | .cast expr sqlType type => .cast (expr.rename r) sqlType type
  | .exists select => .exists (select.rename r)
  | .isIn value values => .isIn (value.rename r) (values.rename r)
  | .aggregate function arg distinct type => .aggregate function (arg.rename r) distinct type
  | .subquery kind select type => .subquery kind (select.rename r) type
  | .record fields => .record (Expr.renameFields r fields)
  | .array elements type => .array (Expr.renameList r elements) type
  | .member expr field type => .member (expr.rename r) field type
  | .parameter index type => .parameter index type
  | .defaultIfEmpty expr flag flagAlias =>
    .defaultIfEmpty (expr.rename r) (flag.rename r) flagAlias

/-- Expressions with other identities for their tables. -/
def Expr.renameList (r : TableId → TableId) : List Expr → List Expr
  | [] => []
  | expr :: rest => expr.rename r :: Expr.renameList r rest

/-- Named expressions with other identities for their tables. -/
def Expr.renameFields (r : TableId → TableId) : List (String × Expr) → List (String × Expr)
  | [] => []
  | (name, expr) :: rest => (name, expr.rename r) :: Expr.renameFields r rest

/-- An expression with other identities for its tables, if there is one. -/
def Expr.renameOption (r : TableId → TableId) : Option Expr → Option Expr
  | none => none
  | some expr => some (expr.rename r)

/-- What a value is looked for in, with other identities for its tables. -/
def InValues.rename (r : TableId → TableId) : InValues → InValues
  | .subquery select => .subquery (select.rename r)
  | .list elements => .list (Expr.renameList r elements)
  | .constants values => .constants values
  | .dynamic expr => .dynamic (expr.rename r)

/-- A projection with other identities for its tables. -/
def Projection.rename (r : TableId → TableId) : Projection → Projection
  | .server body => .server (body.rename r)
  | .client body after => .client (body.rename r) (after.rename r)
  | .composite outer inner result =>
    .composite (outer.rename r) (inner.rename r) (result.rename r)

/-- A table with another identity. -/
def Table.rename (r : TableId → TableId) : Table → Table
  | .base id schema name preferred => .base (r id) schema name preferred
  | .subquery id preferred select => .subquery (r id) preferred (select.rename r)
  | .setOperation id preferred op left right =>
    .setOperation (r id) preferred op (left.rename r) (right.rename r)
  | .join kind outer inner predicate =>
    .join kind (outer.rename r) (inner.rename r) (predicate.rename r)
  | .cross kind outer inner => .cross kind (outer.rename r) (inner.rename r)

/-- A table with another identity, if there is one. -/
def Table.renameOption (r : TableId → TableId) : Option Table → Option Table
  | none => none
  | some table => some (table.rename r)

/-- An ordering with other identities for its tables. -/
def OrderBy.rename (r : TableId → TableId) : OrderBy → OrderBy
  | .term expr descending => .term (expr.rename r) descending
  | .andThen previous expr descending =>
    .andThen (previous.rename r) (expr.rename r) descending

/-- An ordering with other identities for its tables, if there is one. -/
def OrderBy.renameOption (r : TableId → TableId) : Option OrderBy → Option OrderBy
  | none => none
  | some ordering => some (ordering.rename r)

/-- A select with other identities for its tables, throughout. -/
def Select.rename (r : TableId → TableId) : Select → Select
  | ⟨projection, table, predicate, grouping, ordering, offset, limit, distinct⟩ =>
    ⟨projection.rename r, Table.renameOption r table, Expr.renameOption r predicate,
      Expr.renameOption r grouping, OrderBy.renameOption r ordering, Expr.renameOption r offset,
      Expr.renameOption r limit, distinct⟩

end

section Invariance

variable (r : TableId → TableId)

/-! ## What a renaming leaves as it is -/

@[simp]
theorem Expr.renameOption_eq_map (expr : Option Expr) :
    Expr.renameOption r expr = expr.map (·.rename r) := by
  cases expr <;> rfl

@[simp]
theorem Table.renameOption_eq_map (table : Option Table) :
    Table.renameOption r table = table.map (·.rename r) := by
  cases table <;> rfl

@[simp]
theorem OrderBy.renameOption_eq_map (ordering : Option OrderBy) :
    OrderBy.renameOption r ordering = ordering.map (·.rename r) := by
  cases ordering <;> rfl

theorem Expr.renameFields_eq_map (fields : List (String × Expr)) :
    Expr.renameFields r fields = fields.map fun field => (field.1, field.2.rename r) := by
  induction fields with
  | nil => rfl
  | cons field rest ih => rw [Expr.renameFields, ih, List.map_cons]

@[simp]
theorem Expr.nodeName_rename (expr : Expr) : (expr.rename r).nodeName = expr.nodeName := by
  cases expr with
  | subquery kind select type => cases kind <;> rfl
  | _ => rfl

mutual

@[simp]
theorem Expr.type_rename : ∀ expr : Expr, (expr.rename r).type = expr.type
  | .column .. | .constant .. | .input .. | .function .. | .fragment .. | .cast .. | .exists _
  | .isIn .. | .aggregate .. | .subquery .. | .array .. | .member .. | .parameter ..
  | .unary .not _ | .unary (.convert _) _ => rfl
  | .aliased expr _ | .defaultIfEmpty expr _ _ | .unary .negate expr | .conditional _ expr _ => by
    simp only [Expr.rename, Expr.type, expr.type_rename]
  | .binary _ left _ => by simp only [Expr.rename, Expr.type, left.type_rename]
  | .record fields => by simp only [Expr.rename, Expr.type, Expr.fieldTypes_rename fields]

theorem Expr.fieldTypes_rename :
    ∀ fields : List (String × Expr),
      Expr.fieldTypes (Expr.renameFields r fields) = Expr.fieldTypes fields
  | [] => rfl
  | (_, expr) :: rest => by
    simp only [Expr.renameFields, Expr.fieldTypes, expr.type_rename, Expr.fieldTypes_rename rest]

end

mutual

@[simp]
theorem Expr.isOnHost_rename : ∀ expr : Expr, (expr.rename r).isOnHost = expr.isOnHost
  | .column .. | .aliased .. | .constant .. | .input .. | .function .. | .fragment .. | .cast ..
  | .exists _ | .isIn .. | .aggregate .. | .subquery .. | .parameter .. | .defaultIfEmpty .. => rfl
  | .unary _ expr | .member expr _ _ => by
    simp only [Expr.rename, Expr.isOnHost, expr.isOnHost_rename]
  | .binary _ left right => by
    simp only [Expr.rename, Expr.isOnHost, left.isOnHost_rename, right.isOnHost_rename]
  | .conditional test ifTrue ifFalse => by
    simp only [Expr.rename, Expr.isOnHost, test.isOnHost_rename, ifTrue.isOnHost_rename,
      ifFalse.isOnHost_rename]
  | .record fields => by
    simp only [Expr.rename, Expr.isOnHost, Expr.areFieldsOnHost_rename fields]
  | .array elements _ => by
    simp only [Expr.rename, Expr.isOnHost, Expr.areOnHost_rename elements]

theorem Expr.areOnHost_rename :
    ∀ exprs : List Expr, Expr.areOnHost (Expr.renameList r exprs) = Expr.areOnHost exprs
  | [] => rfl
  | expr :: rest => by
    simp only [Expr.renameList, Expr.areOnHost, expr.isOnHost_rename, Expr.areOnHost_rename rest]

theorem Expr.areFieldsOnHost_rename :
    ∀ fields : List (String × Expr),
      Expr.areFieldsOnHost (Expr.renameFields r fields) = Expr.areFieldsOnHost fields
  | [] => rfl
  | (_, expr) :: rest => by
    simp only [Expr.renameFields, Expr.areFieldsOnHost, expr.isOnHost_rename,
      Expr.areFieldsOnHost_rename rest]

end

mutual

@[simp]
theorem Expr.readsInput_rename : ∀ expr : Expr, (expr.rename r).readsInput = expr.readsInput
  | .column .. | .aliased .. | .constant .. | .input .. | .function .. | .fragment .. | .cast ..
  | .exists _ | .isIn .. | .aggregate .. | .subquery .. | .parameter .. | .defaultIfEmpty .. => rfl
  | .unary _ expr | .member expr _ _ => by
    simp only [Expr.rename, Expr.readsInput, expr.readsInput_rename]
  | .binary _ left right => by
    simp only [Expr.rename, Expr.readsInput, left.readsInput_rename, right.readsInput_rename]
  | .conditional test ifTrue ifFalse => by
    simp only [Expr.rename, Expr.readsInput, test.readsInput_rename, ifTrue.readsInput_rename,
      ifFalse.readsInput_rename]
  | .record fields => by
    simp only [Expr.rename, Expr.readsInput, Expr.anyFieldReadsInput_rename fields]
  | .array elements _ => by
    simp only [Expr.rename, Expr.readsInput, Expr.anyReadsInput_rename elements]

theorem Expr.anyReadsInput_rename :
    ∀ exprs : List Expr, Expr.anyReadsInput (Expr.renameList r exprs) = Expr.anyReadsInput exprs
  | [] => rfl
  | expr :: rest => by
    simp only [Expr.renameList, Expr.anyReadsInput, expr.readsInput_rename,
      Expr.anyReadsInput_rename rest]

theorem Expr.anyFieldReadsInput_rename :
    ∀ fields : List (String × Expr),
      Expr.anyFieldReadsInput (Expr.renameFields r fields) = Expr.anyFieldReadsInput fields
  | [] => rfl
  | (_, expr) :: rest => by
    simp only [Expr.renameFields, Expr.anyFieldReadsInput, expr.readsInput_rename,
      Expr.anyFieldReadsInput_rename rest]

end

@[simp]
theorem Expr.isParameterizable_rename (expr : Expr) :
    (expr.rename r).isParameterizable = expr.isParameterizable := by
  rw [Expr.isParameterizable, Expr.isParameterizable, expr.readsInput_rename, expr.isOnHost_rename]

mutual

/-- What is on the host mentions no tables. -/
theorem Expr.rename_of_isOnHost : ∀ expr : Expr, expr.isOnHost = true → expr.rename r = expr
  | .constant .., _ | .input .., _ => rfl
  | .unary _ expr, onHost | .member expr _ _, onHost => by
    rw [Expr.rename, expr.rename_of_isOnHost onHost]
  | .binary _ left right, onHost => by
    rw [Expr.isOnHost, Bool.and_eq_true] at onHost
    rw [Expr.rename, left.rename_of_isOnHost onHost.1, right.rename_of_isOnHost onHost.2]
  | .conditional test ifTrue ifFalse, onHost => by
    rw [Expr.isOnHost, Bool.and_eq_true, Bool.and_eq_true] at onHost
    rw [Expr.rename, test.rename_of_isOnHost onHost.1.1, ifTrue.rename_of_isOnHost onHost.1.2,
      ifFalse.rename_of_isOnHost onHost.2]
  | .record fields, onHost => by rw [Expr.rename, Expr.renameFields_of_areOnHost fields onHost]
  | .array elements _, onHost => by rw [Expr.rename, Expr.renameList_of_areOnHost elements onHost]

theorem Expr.renameList_of_areOnHost :
    ∀ exprs : List Expr, Expr.areOnHost exprs = true → Expr.renameList r exprs = exprs
  | [], _ => rfl
  | expr :: rest, onHost => by
    rw [Expr.areOnHost, Bool.and_eq_true] at onHost
    rw [Expr.renameList, expr.rename_of_isOnHost onHost.1,
      Expr.renameList_of_areOnHost rest onHost.2]

theorem Expr.renameFields_of_areOnHost :
    ∀ fields : List (String × Expr), Expr.areFieldsOnHost fields = true →
      Expr.renameFields r fields = fields
  | [], _ => rfl
  | (_, expr) :: rest, onHost => by
    rw [Expr.areFieldsOnHost, Bool.and_eq_true] at onHost
    rw [Expr.renameFields, expr.rename_of_isOnHost onHost.1,
      Expr.renameFields_of_areOnHost rest onHost.2]

end

theorem Expr.rename_of_isParameterizable {expr : Expr}
    (parameterizable : expr.isParameterizable = true) : expr.rename r = expr := by
  rw [Expr.isParameterizable, Bool.and_eq_true] at parameterizable
  exact expr.rename_of_isOnHost r parameterizable.2

mutual

/-- Renaming tables does not change what can be rendered. -/
@[simp]
theorem Expr.isRenderable_rename : ∀ expr : Expr, (expr.rename r).isRenderable = expr.isRenderable
  | .column .. | .constant .. | .input .. | .fragment .. | .exists _ | .subquery ..
  | .parameter .. => rfl
  | .aliased expr _ | .cast expr _ _ | .aggregate _ expr _ _ => by
    simp only [Expr.rename, Expr.isRenderable, expr.isRenderable_rename]
  | .function _ args _ => by
    simp only [Expr.rename, Expr.isRenderable, Expr.areRenderable_rename args]
  | .isIn value values => by
    simp only [Expr.rename, Expr.isRenderable, value.isRenderable_rename,
      values.isRenderable_rename]
  | .unary op operand => by
    have whole := (Expr.unary op operand).isParameterizable_rename r
    rw [Expr.rename] at whole
    simp only [Expr.rename, Expr.isRenderable, whole, operand.isRenderable_rename]
  | .binary op left right => by
    have whole := (Expr.binary op left right).isParameterizable_rename r
    rw [Expr.rename] at whole
    simp only [Expr.rename, Expr.isRenderable, whole, left.isRenderable_rename,
      right.isRenderable_rename]
  | .conditional test ifTrue ifFalse => by
    have whole := (Expr.conditional test ifTrue ifFalse).isParameterizable_rename r
    rw [Expr.rename] at whole
    simp only [Expr.rename, Expr.isRenderable, whole, test.isRenderable_rename,
      ifTrue.isRenderable_rename, ifFalse.isRenderable_rename]
  | .record fields => (Expr.record fields).isParameterizable_rename r
  | .array elements type => (Expr.array elements type).isParameterizable_rename r
  | .member expr field type => (Expr.member expr field type).isParameterizable_rename r
  | .defaultIfEmpty .. => rfl

theorem Expr.areRenderable_rename :
    ∀ exprs : List Expr, Expr.areRenderable (Expr.renameList r exprs) = Expr.areRenderable exprs
  | [] => rfl
  | expr :: rest => by
    simp only [Expr.renameList, Expr.areRenderable, expr.isRenderable_rename,
      Expr.areRenderable_rename rest]

theorem InValues.isRenderable_rename :
    ∀ values : InValues, (values.rename r).isRenderable = values.isRenderable
  | .list elements => Expr.areRenderable_rename elements
  | .dynamic expr => expr.isParameterizable_rename r
  | .subquery _ | .constants _ => rfl

end

mutual

/-- Renaming tables does not change the depth of an expression. -/
theorem Expr.depth_rename : ∀ expr : Expr, (expr.rename r).depth = expr.depth
  | .column .. | .constant .. | .input .. | .fragment .. | .parameter .. => rfl
  | .aliased expr _ | .cast expr _ _ | .member expr _ _ | .aggregate _ expr _ _
  | .unary _ expr => by simp only [Expr.rename, Expr.depth, expr.depth_rename]
  | .binary _ left right | .defaultIfEmpty left right _ => by
    simp only [Expr.rename, Expr.depth, left.depth_rename, right.depth_rename]
  | .conditional test ifTrue ifFalse => by
    simp only [Expr.rename, Expr.depth, test.depth_rename, ifTrue.depth_rename,
      ifFalse.depth_rename]
  | .function _ exprs _ | .array exprs _ => by
    simp only [Expr.rename, Expr.depth, Expr.listDepth_rename exprs]
  | .record fields => by simp only [Expr.rename, Expr.depth, Expr.fieldsDepth_rename fields]
  | .exists select | .subquery _ select _ => by
    simp only [Expr.rename, Expr.depth, select.depth_rename]
  | .isIn value values => by
    simp only [Expr.rename, Expr.depth, value.depth_rename, values.depth_rename]

theorem Expr.listDepth_rename :
    ∀ exprs : List Expr, Expr.listDepth (Expr.renameList r exprs) = Expr.listDepth exprs
  | [] => rfl
  | expr :: rest => by
    simp only [Expr.renameList, Expr.listDepth, expr.depth_rename, Expr.listDepth_rename rest]

theorem Expr.fieldsDepth_rename :
    ∀ fields : List (String × Expr),
      Expr.fieldsDepth (Expr.renameFields r fields) = Expr.fieldsDepth fields
  | [] => rfl
  | (_, expr) :: rest => by
    simp only [Expr.renameFields, Expr.fieldsDepth, expr.depth_rename,
      Expr.fieldsDepth_rename rest]

theorem Expr.optionDepth_rename :
    ∀ expr : Option Expr, Expr.optionDepth (Expr.renameOption r expr) = Expr.optionDepth expr
  | none => rfl
  | some expr => expr.depth_rename

theorem InValues.depth_rename : ∀ values : InValues, (values.rename r).depth = values.depth
  | .subquery select => by simp only [InValues.rename, InValues.depth, select.depth_rename]
  | .list elements => Expr.listDepth_rename elements
  | .dynamic expr => expr.depth_rename
  | .constants _ => rfl

theorem Projection.depth_rename :
    ∀ projection : Projection, (projection.rename r).depth = projection.depth
  | .server body => body.depth_rename
  | .client body after => by
    simp only [Projection.rename, Projection.depth, body.depth_rename, after.depth_rename]
  | .composite outer inner result => by
    simp only [Projection.rename, Projection.depth, outer.depth_rename, inner.depth_rename,
      result.depth_rename]

theorem Table.depth_rename (table : Table) : (table.rename r).depth = table.depth := by
  cases table with
  | base => rfl
  | subquery _ _ select => simp only [Table.rename, Table.depth, select.depth_rename]
  | setOperation _ _ _ left right =>
    simp only [Table.rename, Table.depth, left.depth_rename, right.depth_rename]
  | join _ outer inner predicate =>
    simp only [Table.rename, Table.depth, outer.depth_rename, inner.depth_rename,
      predicate.depth_rename]
  | cross _ outer inner =>
    simp only [Table.rename, Table.depth, outer.depth_rename, inner.depth_rename]

theorem Table.optionDepth_rename :
    ∀ table : Option Table, Table.optionDepth (Table.renameOption r table) = Table.optionDepth table
  | none => rfl
  | some table => table.depth_rename

theorem OrderBy.depth_rename (ordering : OrderBy) :
    (ordering.rename r).depth = ordering.depth := by
  cases ordering with
  | term expr _ => exact expr.depth_rename
  | andThen previous expr _ =>
    simp only [OrderBy.rename, OrderBy.depth, previous.depth_rename, expr.depth_rename]

theorem OrderBy.optionDepth_rename :
    ∀ ordering : Option OrderBy,
      OrderBy.optionDepth (OrderBy.renameOption r ordering) = OrderBy.optionDepth ordering
  | none => rfl
  | some ordering => ordering.depth_rename

theorem Select.depth_rename : ∀ select : Select, (select.rename r).depth = select.depth
  | ⟨projection, table, predicate, grouping, ordering, offset, limit, _⟩ => by
    simp only [Select.rename, Select.depth, projection.depth_rename,
      Table.optionDepth_rename table, Expr.optionDepth_rename predicate,
      Expr.optionDepth_rename grouping, OrderBy.optionDepth_rename ordering,
      Expr.optionDepth_rename offset, Expr.optionDepth_rename limit]

end

/-! ## Renamed declarations -/

/-- Identities with what goes by them, under other identities. -/
def TableId.renameKeys {α : Type} (keyed : List (TableId × α)) : List (TableId × α) :=
  keyed.map fun entry => (r entry.1, entry.2)

@[simp]
theorem TableId.renameKeys_append {α : Type} (first second : List (TableId × α)) :
    TableId.renameKeys r (first ++ second) =
      TableId.renameKeys r first ++ TableId.renameKeys r second :=
  List.map_append

@[simp]
theorem TableId.renameKeys_cons {α : Type} (id : TableId) (a : α) (rest : List (TableId × α)) :
    TableId.renameKeys r ((id, a) :: rest) = (r id, a) :: TableId.renameKeys r rest :=
  rfl

/-- An injective renaming finds what goes by an identity under the other one. -/
theorem TableId.lookup_renameKeys {r : TableId → TableId} (injective : Function.Injective r)
    {α : Type} (id : TableId) (keyed : List (TableId × α)) :
    (TableId.renameKeys r keyed).lookup (r id) = keyed.lookup id := by
  induction keyed with
  | nil => rfl
  | cons entry rest ih =>
    obtain ⟨other, a⟩ := entry
    rw [TableId.renameKeys_cons, List.lookup_cons, List.lookup_cons, ih]
    by_cases same : id = other
    · simp only [same, BEq.rfl]
    · have apart : r id ≠ r other := fun equal => same (injective equal)
      simp only [beq_false_of_ne same, beq_false_of_ne apart]

mutual

/-- The declarations in a renamed expression are the renamed ones, in the same order. -/
theorem Expr.declarations_rename :
    ∀ expr : Expr, (expr.rename r).declarations = TableId.renameKeys r expr.declarations
  | .column .. | .constant .. | .input .. | .fragment .. | .parameter .. => rfl
  | .aliased expr _ | .cast expr _ _ | .member expr _ _ | .aggregate _ expr _ _
  | .unary _ expr => by simp only [Expr.rename, Expr.declarations, expr.declarations_rename]
  | .binary _ left right | .defaultIfEmpty left right _ => by
    simp only [Expr.rename, Expr.declarations, left.declarations_rename,
      right.declarations_rename, TableId.renameKeys_append]
  | .conditional test ifTrue ifFalse => by
    simp only [Expr.rename, Expr.declarations, test.declarations_rename,
      ifTrue.declarations_rename, ifFalse.declarations_rename, TableId.renameKeys_append]
  | .function _ exprs _ | .array exprs _ => by
    simp only [Expr.rename, Expr.declarations, Expr.listDeclarations_rename exprs]
  | .record fields => by
    simp only [Expr.rename, Expr.declarations, Expr.fieldDeclarations_rename fields]
  | .exists select | .subquery _ select _ => by
    simp only [Expr.rename, Expr.declarations, select.declarations_rename]
  | .isIn value values => by
    simp only [Expr.rename, Expr.declarations, value.declarations_rename,
      values.declarations_rename, TableId.renameKeys_append]

theorem Expr.listDeclarations_rename :
    ∀ exprs : List Expr, Expr.listDeclarations (Expr.renameList r exprs) =
      TableId.renameKeys r (Expr.listDeclarations exprs)
  | [] => rfl
  | expr :: rest => by
    simp only [Expr.renameList, Expr.listDeclarations, expr.declarations_rename,
      Expr.listDeclarations_rename rest, TableId.renameKeys_append]

theorem Expr.fieldDeclarations_rename :
    ∀ fields : List (String × Expr), Expr.fieldDeclarations (Expr.renameFields r fields) =
      TableId.renameKeys r (Expr.fieldDeclarations fields)
  | [] => rfl
  | (_, expr) :: rest => by
    simp only [Expr.renameFields, Expr.fieldDeclarations, expr.declarations_rename,
      Expr.fieldDeclarations_rename rest, TableId.renameKeys_append]

theorem Expr.optionDeclarations_rename :
    ∀ expr : Option Expr, Expr.optionDeclarations (Expr.renameOption r expr) =
      TableId.renameKeys r (Expr.optionDeclarations expr)
  | none => rfl
  | some expr => expr.declarations_rename

theorem InValues.declarations_rename :
    ∀ values : InValues,
      (values.rename r).declarations = TableId.renameKeys r values.declarations
  | .subquery select => select.declarations_rename
  | .list elements => Expr.listDeclarations_rename elements
  | .dynamic expr => expr.declarations_rename
  | .constants _ => rfl

theorem Projection.declarations_rename :
    ∀ projection : Projection,
      (projection.rename r).declarations = TableId.renameKeys r projection.declarations
  | .server body => body.declarations_rename
  | .client body after => by
    simp only [Projection.rename, Projection.declarations, body.declarations_rename,
      after.declarations_rename, TableId.renameKeys_append]
  | .composite outer inner result => by
    simp only [Projection.rename, Projection.declarations, outer.declarations_rename,
      inner.declarations_rename, result.declarations_rename, TableId.renameKeys_append]

/-- The declarations in a renamed table are the renamed ones, in the same order. -/
theorem Table.declarations_rename (table : Table) :
    (table.rename r).declarations = TableId.renameKeys r table.declarations := by
  cases table with
  | base => rfl
  | subquery _ _ select =>
    simp only [Table.rename, Table.declarations, select.declarations_rename,
      TableId.renameKeys_cons]
  | setOperation _ _ _ left right =>
    simp only [Table.rename, Table.declarations, left.declarations_rename,
      right.declarations_rename, TableId.renameKeys_cons, TableId.renameKeys_append]
  | join _ outer inner predicate =>
    simp only [Table.rename, Table.declarations, outer.declarations_rename,
      inner.declarations_rename, predicate.declarations_rename, TableId.renameKeys_append]
  | cross _ outer inner =>
    simp only [Table.rename, Table.declarations, outer.declarations_rename,
      inner.declarations_rename, TableId.renameKeys_append]

theorem Table.optionDeclarations_rename :
    ∀ table : Option Table, Table.optionDeclarations (Table.renameOption r table) =
      TableId.renameKeys r (Table.optionDeclarations table)
  | none => rfl
  | some table => table.declarations_rename

theorem OrderBy.declarations_rename (ordering : OrderBy) :
    (ordering.rename r).declarations = TableId.renameKeys r ordering.declarations := by
  cases ordering with
  | term expr _ => exact expr.declarations_rename
  | andThen previous expr _ =>
    simp only [OrderBy.rename, OrderBy.declarations, previous.declarations_rename,
      expr.declarations_rename, TableId.renameKeys_append]

theorem OrderBy.optionDeclarations_rename :
    ∀ ordering : Option OrderBy, OrderBy.optionDeclarations (OrderBy.renameOption r ordering) =
      TableId.renameKeys r (OrderBy.optionDeclarations ordering)
  | none => rfl
  | some ordering => ordering.declarations_rename

theorem Select.declarations_rename :
    ∀ select : Select,
      (select.rename r).declarations = TableId.renameKeys r select.declarations
  | ⟨projection, table, predicate, grouping, ordering, offset, limit, _⟩ => by
    simp only [Select.rename, Select.declarations, projection.declarations_rename,
      Table.optionDeclarations_rename table, Expr.optionDeclarations_rename predicate,
      Expr.optionDeclarations_rename grouping, OrderBy.optionDeclarations_rename ordering,
      Expr.optionDeclarations_rename offset, Expr.optionDeclarations_rename limit,
      TableId.renameKeys_append]

end

end Invariance

/-! ## Renamed computations -/

/-- An error with another identity for the table that is unknown. -/
def LowerError.rename (r : TableId → TableId) : LowerError → LowerError
  | .unknownTable id => .unknownTable (r id)
  | other => other

/-- Two computations that end alike: with results that a renaming takes to each other, or with
errors that it takes to each other. -/
inductive Renames {α β : Type} (r : TableId → TableId) (f : α → β) :
    Except LowerError α → Except LowerError β → Prop
  | ok (a : α) : Renames r f (.ok a) (.ok (f a))
  | error (e : LowerError) : Renames r f (.error e) (.error (e.rename r))

namespace Renames

variable {α α' β β' : Type} {r : TableId → TableId} {f : α → α'} {g : β → β'}

theorem ok_of {a : α} {b : α'} (same : f a = b) : Renames r f (.ok a) (.ok b) := by
  rw [← same]
  exact .ok a

theorem pure_of {a : α} {b : α'} (same : f a = b) :
    Renames r f (Pure.pure a) (Pure.pure b) :=
  ok_of same

theorem bind {first : Except LowerError α} {first' : Except LowerError α'}
    {next : α → Except LowerError β} {next' : α' → Except LowerError β'}
    (renames : Renames r f first first') (nextRenames : ∀ a, Renames r g (next a) (next' (f a))) :
    Renames r g (first >>= next) (first' >>= next') := by
  cases renames with
  | ok a => exact nextRenames a
  | error e => exact .error e

theorem mapM {h : α → Except LowerError β} {h' : α' → Except LowerError β'}
    (each : ∀ a, Renames r g (h a) (h' (f a))) (list : List α) :
    Renames r (List.map g) (list.mapM h) ((list.map f).mapM h') := by
  induction list with
  | nil => exact .ok []
  | cons a rest ih =>
    rw [List.map_cons, List.mapM_cons, List.mapM_cons]
    exact .bind (each a) fun _ => .bind ih fun _ => .pure_of rfl

end Renames

/-! ## Renamed bodies on the host -/

section Flattening

variable (r : TableId → TableId)

/-- A body that depends on inputs only is evaluated as it is. -/
theorem Expr.renames_compileWhole (body : Expr) {parts parts' : Except LowerError Plan}
    (renames : Renames r id parts parts') :
    Renames r id (if body.isParameterizable then .ok (.evaluate body) else parts)
      (if (body.rename r).isParameterizable then .ok (.evaluate (body.rename r)) else parts') := by
  rw [Expr.isParameterizable_rename]
  split
  next parameterizable =>
    rw [Expr.rename_of_isParameterizable r parameterizable]
    exact .ok _
  · exact renames

mutual

/-- A renamed body has the same plan. -/
theorem Expr.renames_compile :
    ∀ body : Expr, Renames r id body.compile (body.rename r).compile
  | .parameter .. | .constant .. | .input .. => .ok _
  | .aliased body _ => by
    rw [Expr.rename, Expr.compile, Expr.compile]
    exact body.renames_compile
  | .record fields => by
    refine Expr.renames_compileWhole r (.record fields) ?_
    exact .bind (Expr.renames_compileFields fields) fun _ => .pure_of rfl
  | .member body field type => by
    refine Expr.renames_compileWhole r (.member body field type) ?_
    exact .bind body.renames_compile fun _ => .pure_of rfl
  | .array elements type => by
    refine Expr.renames_compileWhole r (.array elements type) ?_
    exact .bind (Expr.renames_compileList elements) fun _ => .pure_of rfl
  | .binary op left right => by
    refine Expr.renames_compileWhole r (.binary op left right) ?_
    exact .bind left.renames_compile fun _ => .bind right.renames_compile fun _ => .pure_of rfl
  | .unary op operand => by
    refine Expr.renames_compileWhole r (.unary op operand) ?_
    exact .bind operand.renames_compile fun _ => .pure_of rfl
  | .conditional test ifTrue ifFalse => by
    refine Expr.renames_compileWhole r (.conditional test ifTrue ifFalse) ?_
    exact .bind test.renames_compile fun _ => .bind ifTrue.renames_compile fun _ =>
      .bind ifFalse.renames_compile fun _ => .pure_of rfl
  | .subquery kind _ _ => by cases kind <;> exact .error _
  | .column .. | .function .. | .fragment .. | .cast .. | .exists _ | .isIn .. | .aggregate ..
  | .defaultIfEmpty .. => .error _

theorem Expr.renames_compileList :
    ∀ bodies : List Expr,
      Renames r id (Expr.compileList bodies) (Expr.compileList (Expr.renameList r bodies))
  | [] => .ok _
  | body :: rest =>
    .bind body.renames_compile fun _ => .bind (Expr.renames_compileList rest) fun _ => .pure_of rfl

theorem Expr.renames_compileFields :
    ∀ fields : List (String × Expr),
      Renames r id (Expr.compileFields fields) (Expr.compileFields (Expr.renameFields r fields))
  | [] => .ok _
  | (_, body) :: rest =>
    .bind body.renames_compile fun _ =>
      .bind (Expr.renames_compileFields rest) fun _ => .pure_of rfl

end

/-! ## Renamed shapes -/

/-- A column with other identities for the tables of its expression. -/
def Column.rename (column : Column) : Column :=
  { column with expr := column.expr.rename r }

/-- What has been flattened, with other identities. -/
def Collected.rename (g : Collected) : Collected :=
  { g with columns := g.columns.map (Column.rename r) }

/-- A result of flattening, with other identities. The plan has none. -/
def Collected.renameAfter {α : Type} (result : α × Collected) : α × Collected :=
  (result.1, result.2.rename r)

theorem Collected.add_rename (g : Collected) (name : String) (expr : Expr) :
    (g.rename r).add name (expr.rename r) = (g.add name expr).rename r := by
  simp [Collected.add, Collected.rename, Column.rename]

theorem Collected.addAt_rename (g : Collected) (path : List String) (hosted : Bool) (expr : Expr) :
    (g.rename r).addAt path hosted (expr.rename r) = (g.addAt path hosted expr).rename r := by
  cases hosted with
  | true => exact Collected.add_rename r { g with numbered := g.numbered + 1 } _ expr
  | false => exact Collected.add_rename r g _ expr

theorem Collected.underHost_rename (g : Collected) (hosted : Bool) :
    (g.rename r).underHost hosted = (g.underHost hosted).rename r := by
  cases hosted <;> rfl

theorem Collected.length_rename (g : Collected) : (g.rename r).columns.length = g.columns.length :=
  List.length_map _

theorem Expr.reading_rename (expr : Expr) (ordinal : Nat) :
    (expr.rename r).reading ordinal = expr.reading ordinal := by
  have type := expr.type_rename r
  cases expr with
  | subquery kind select t => cases kind <;> rfl
  | _ => exact congrArg (Plan.readColumn ordinal) type

/-- What is no constant is evaluated by the host or a column. -/
theorem Expr.collectWhole?_of_ne_constant {expr : Expr}
    (different : ∀ value type, expr ≠ .constant value type) (path : List String) (hosted : Bool)
    (g : Collected) :
    expr.collectWhole? path hosted g =
      if expr.isParameterizable then some (.evaluate expr, g)
      else if expr.isRenderable then
        some (expr.reading g.columns.length, g.addAt path hosted expr)
      else none := by
  unfold Expr.collectWhole?
  split
  · rfl
  · split
    next => exact (different _ _ rfl).elim
    · rfl

theorem Expr.rename_ne_constant {expr : Expr}
    (different : ∀ value type, expr ≠ .constant value type) (value : Value) (type : DataType) :
    expr.rename r ≠ .constant value type := by
  intro same
  cases expr with
  | constant other otherType => exact different other otherType rfl
  | _ => simp [Expr.rename] at same

/-- What is not taken apart stays whole, in the same place. -/
theorem Expr.collectWhole?_rename (path : List String) (hosted : Bool) (expr : Expr)
    (g : Collected) :
    (expr.rename r).collectWhole? path hosted (g.rename r) =
      (expr.collectWhole? path hosted g).map (Collected.renameAfter r) := by
  by_cases constant : ∃ value type, expr = .constant value type
  · obtain ⟨value, type, rfl⟩ := constant
    cases hosted with
    | true => rfl
    | false =>
      have added := Collected.addAt_rename r g path false (.constant value type)
      change some (Plan.readColumn (g.rename r).columns.length type,
        (g.rename r).addAt path false ((Expr.constant value type).rename r)) = _
      rw [Collected.length_rename, added]
      rfl
  · have different : ∀ value type, expr ≠ .constant value type := by
      intro value type same
      exact constant ⟨value, type, same⟩
    rw [Expr.collectWhole?_of_ne_constant different,
      Expr.collectWhole?_of_ne_constant (Expr.rename_ne_constant r different),
      Expr.isParameterizable_rename, Expr.isRenderable_rename, Expr.reading_rename,
      Collected.length_rename, Collected.addAt_rename]
    split
    next parameterizable =>
      rw [Expr.rename_of_isParameterizable r parameterizable]
      rfl
    · split <;> rfl

/-- A shape that may stay whole stays so, or its parts are renamed. -/
theorem Expr.renames_wholeOr {path : List String} {hosted : Bool} {g : Collected}
    {parts parts' : Except LowerError (Plan × Collected)} (expr : Expr)
    (renames : Renames r (Collected.renameAfter r) parts parts') :
    Renames r (Collected.renameAfter r)
      (match expr.collectWhole? path hosted g with
        | some whole => .ok whole
        | none => parts)
      (match (expr.rename r).collectWhole? path hosted (g.rename r) with
        | some whole => .ok whole
        | none => parts') := by
  rw [Expr.collectWhole?_rename]
  cases expr.collectWhole? path hosted g with
  | some whole => exact .ok whole
  | none => exact renames

theorem Expr.renames_wholeOrRefused {path : List String} {hosted : Bool} {g : Collected}
    (expr : Expr) :
    Renames r (Collected.renameAfter r)
      (match expr.collectWhole? path hosted g with
        | some whole => .ok whole
        | none => .error (.nodeInProjection expr.nodeName))
      (match (expr.rename r).collectWhole? path hosted (g.rename r) with
        | some whole => .ok whole
        | none => .error (.nodeInProjection (expr.rename r).nodeName)) := by
  rw [Expr.nodeName_rename]
  exact Expr.renames_wholeOr r expr (.error _)

mutual

/-- A renamed shape has the renamed columns and the same plan. -/
theorem Expr.renames_collect :
    ∀ (expr : Expr) (path : List String) (hosted : Bool) (g : Collected),
      Renames r (Collected.renameAfter r) (expr.collect path hosted g)
        ((expr.rename r).collect path hosted (g.rename r))
  | .record fields, path, hosted, g => by
    rw [Expr.rename, Expr.collect, Expr.collect]
    exact .bind (Expr.renames_collectFields fields path hosted { g with numbered := 0 })
      fun _ => .pure_of rfl
  | .defaultIfEmpty expr flag flagAlias, path, hosted, g => by
    have inner := expr.renames_collect path hosted (g.add (joinPath (pathName path) flagAlias) flag)
    rw [← Collected.add_rename] at inner
    rw [Expr.rename, Expr.collect, Expr.collect]
    refine .bind inner fun _ => .pure_of ?_
    rw [Collected.length_rename, Expr.type_rename]
    rfl
  | .member expr field type, path, hosted, g => by
    have source := expr.renames_collect path true (g.underHost hosted)
    rw [← Collected.underHost_rename] at source
    rw [Expr.rename, Expr.collect, Expr.collect]
    exact Expr.renames_wholeOr r (.member expr field type) (.bind source fun _ => .pure_of rfl)
  | .array elements type, path, hosted, g => by
    have plans := Expr.renames_collectList elements path (g.underHost hosted)
    rw [← Collected.underHost_rename] at plans
    rw [Expr.rename, Expr.collect, Expr.collect]
    exact Expr.renames_wholeOr r (.array elements type) (.bind plans fun _ => .pure_of rfl)
  | .binary op left right, path, hosted, g => by
    have lhs := left.renames_collect path true (g.underHost hosted)
    rw [← Collected.underHost_rename] at lhs
    rw [Expr.rename, Expr.collect, Expr.collect]
    exact Expr.renames_wholeOr r (.binary op left right) (.bind lhs fun afterLeft =>
      .bind (right.renames_collect path true afterLeft.2) fun _ => .pure_of rfl)
  | .unary op operand, path, hosted, g => by
    have inner := operand.renames_collect path true (g.underHost hosted)
    rw [← Collected.underHost_rename] at inner
    rw [Expr.rename, Expr.collect, Expr.collect]
    exact Expr.renames_wholeOr r (.unary op operand) (.bind inner fun _ => .pure_of rfl)
  | .conditional test ifTrue ifFalse, path, hosted, g => by
    have tested := test.renames_collect path true (g.underHost hosted)
    rw [← Collected.underHost_rename] at tested
    rw [Expr.rename, Expr.collect, Expr.collect]
    exact Expr.renames_wholeOr r (.conditional test ifTrue ifFalse) (.bind tested fun afterTest =>
      .bind (ifTrue.renames_collect path true afterTest.2) fun afterTrue =>
        .bind (ifFalse.renames_collect path true afterTrue.2) fun _ => .pure_of rfl)
  | .input .., path, hosted, g => .ok _
  -- The nodes that have no parts of their own to flatten.
  | .column .., path, hosted, g | .aliased .., path, hosted, g | .constant .., path, hosted, g
  | .function .., path, hosted, g | .fragment .., path, hosted, g | .cast .., path, hosted, g
  | .exists _, path, hosted, g | .isIn .., path, hosted, g | .aggregate .., path, hosted, g
  | .subquery .., path, hosted, g | .parameter .., path, hosted, g => by
    simp only [Expr.collect, Expr.rename]
    exact Expr.renames_wholeOrRefused r _

theorem Expr.renames_collectList :
    ∀ (exprs : List Expr) (path : List String) (g : Collected),
      Renames r (Collected.renameAfter r) (Expr.collectList path exprs g)
        (Expr.collectList path (Expr.renameList r exprs) (g.rename r))
  | [], _, _ => .ok _
  | expr :: rest, path, g => by
    rw [Expr.renameList, Expr.collectList, Expr.collectList]
    exact .bind (expr.renames_collect path true g) fun after =>
      .bind (Expr.renames_collectList rest path after.2) fun _ => .pure_of rfl

theorem Expr.renames_collectFields :
    ∀ (fields : List (String × Expr)) (path : List String) (hosted : Bool) (g : Collected),
      Renames r (Collected.renameAfter r) (Expr.collectFields path hosted fields g)
        (Expr.collectFields path hosted (Expr.renameFields r fields) (g.rename r))
  | [], _, _, _ => .ok _
  | (name, expr) :: rest, path, hosted, g => by
    rw [Expr.renameFields, Expr.collectFields, Expr.collectFields]
    exact .bind (expr.renames_collect (path ++ [name]) hosted g) fun after =>
      .bind (Expr.renames_collectFields rest path hosted after.2) fun _ => .pure_of rfl

end

theorem Expr.renames_groupingKeys (key : Expr) :
    Renames r (List.map (Expr.rename r)) key.groupingKeys (key.rename r).groupingKeys := by
  refine .bind (key.renames_collect r [] false .empty) fun collected => .pure_of ?_
  simp [Collected.rename, Column.rename]

/-! ## Renamed projections -/

/-- The shapes of a projection, with other identities. -/
def Shapes.rename (shapes : Shapes) : Shapes :=
  { shapes with columns := shapes.columns.map (Column.rename r) }

/-- A result of flattening a projection, with other identities. -/
def Shapes.renameAfter (result : Plan × Shapes) : Plan × Shapes :=
  (result.1, result.2.rename r)

theorem Shapes.positioned_rename (columns : List Column) :
    Shapes.positioned (columns.map (Column.rename r)) =
      (Shapes.positioned columns).map (Column.rename r) := by
  simp [Shapes.positioned, Column.rename]

theorem Shapes.renames_add (shapes : Shapes) (body : Expr) :
    Renames r (Shapes.renameAfter r) (shapes.add body) ((shapes.rename r).add (body.rename r)) := by
  have before : (if shapes.count = 1 then Shapes.positioned shapes.columns
      else shapes.columns).map (Column.rename r) =
      if shapes.count = 1 then Shapes.positioned (shapes.columns.map (Column.rename r))
      else shapes.columns.map (Column.rename r) := by
    split
    · exact (Shapes.positioned_rename r shapes.columns).symm
    · rfl
  have collected := body.renames_collect r
    (if shapes.count = 0 then [] else ["$" ++ toString shapes.count]) false
    ⟨if shapes.count = 1 then Shapes.positioned shapes.columns else shapes.columns, 0⟩
  rw [Collected.rename, before] at collected
  exact .bind collected fun _ => .pure_of rfl

theorem Projection.renames_flattenFrom :
    ∀ (projection : Projection) (shapes : Shapes),
      Renames r (Shapes.renameAfter r) (projection.flattenFrom shapes)
        ((projection.rename r).flattenFrom (shapes.rename r))
  | .server body, shapes => Shapes.renames_add r shapes body
  | .client body after, shapes => by
    rw [Projection.rename, Projection.flattenFrom, Projection.flattenFrom]
    exact .bind (Shapes.renames_add r shapes body) fun _ =>
      .bind (after.renames_compile r) fun _ => .pure_of rfl
  | .composite outer inner result, shapes => by
    rw [Projection.rename, Projection.flattenFrom, Projection.flattenFrom]
    exact .bind (outer.renames_flattenFrom shapes) fun afterOuter =>
      .bind (inner.renames_flattenFrom afterOuter.2) fun _ =>
        .bind (result.renames_compile r) fun _ => .pure_of rfl

/-- A flattened projection, with other identities for the tables of its columns. -/
def Column.renameFlat (flattened : List Column × Plan) : List Column × Plan :=
  (flattened.1.map (Column.rename r), flattened.2)

/-- A renamed projection has the renamed columns and the same plan. -/
theorem Projection.renames_flatten (projection : Projection) :
    Renames r (Column.renameFlat r) projection.flatten (projection.rename r).flatten :=
  .bind (projection.renames_flattenFrom r .empty) fun _ => .pure_of rfl

end Flattening

end SqlLowering
