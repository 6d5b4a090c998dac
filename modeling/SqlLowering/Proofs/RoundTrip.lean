import SqlLowering.Proofs.Parts
import SqlLowering.Proofs.ValueReading
import SqlLowering.Query.Decode

/-!
# Queries are read back from their documents

`Part.ReadsBack` says of a part of a query that its document is read back as the part with some
fuel. `Part.readsBack_of_children` is the step: the document of a node holds the documents of its
children under names of their own, so the node is read back once its children are, with one unit of
fuel more. The documents of children nest less deeply, so the height of a document is fuel enough.
Constants are the only leaves with a condition, that their floating-point numbers are finite.
-/

namespace SqlLowering

/-! ## Operators and identities -/

theorem BinaryOp.decode_toJson (inner : Bool) (op : BinaryOp) :
    BinaryOp.decode inner op.toJson = some op := by
  cases op <;> rfl

theorem UnaryOp.decode_toJson (inner : Bool) (op : UnaryOp) :
    UnaryOp.decode inner op.toJson = some op := by
  cases op with
  | not | negate => rfl
  | convert type =>
    simp [UnaryOp.toJson, UnaryOp.decode, Json.member?, DataType.decode_toJson type (Nat.le_refl _)]

theorem SetOperator.decode_name (inner : Bool) (op : SetOperator) :
    SetOperator.decode inner (.string op.name) = some op := by
  cases op <;> rfl

theorem TableId.ofJson?_toJson (id : TableId) : TableId.ofJson? id.toJson = some id := by
  have range : id.val.toNat < Nat.pow 2 32 := id.val.toNat_lt
  rw [TableId.ofJson?, TableId.toJson, Json.natBelow?, if_pos ⟨by omega, by omega⟩]
  simp

theorem natBelow?_toNat (index : UInt64) :
    (Json.int index.toNat).natBelow? (Nat.pow 2 64) = some index.toNat := by
  have range : index.toNat < Nat.pow 2 64 := index.toNat_lt
  rw [Json.natBelow?, if_pos ⟨by omega, by omega⟩, Int.toNat_natCast]

/-! ## What is read back -/

theorem Expr.listToJson_eq (exprs : List Expr) :
    Expr.listToJson exprs = exprs.map Expr.toJson := by
  induction exprs with
  | nil => rfl
  | cons expr rest ih => rw [Expr.listToJson, ih, List.map_cons]

theorem Expr.fieldsToJson_eq (fields : List (String × Expr)) :
    Expr.fieldsToJson fields =
      fields.map fun field => .array [.string field.1, field.2.toJson] := by
  induction fields with
  | nil => rfl
  | cons field rest ih => rw [Expr.fieldsToJson, ih, List.map_cons]

namespace Part

/-- The document of a part. -/
def toJson : Part → Json
  | .expr e => e.toJson
  | .values vs => vs.toJson
  | .projection p => p.toJson
  | .table t => t.toJson
  | .ordering o => o.toJson
  | .select s => s.toJson

/-- A part is read back from its document with some fuel, inside a node or on its own. -/
def ReadsBack (inner : Bool) (fuel : Nat) : Part → Prop
  | .expr e => Decode.expr inner fuel e.toJson = some e
  | .values vs => Decode.inValues inner fuel vs.toJson = some vs
  | .projection p => Decode.projection inner fuel p.toJson = some p
  | .table t => Decode.table inner fuel t.toJson = some t
  | .ordering o => Decode.orderBy inner fuel o.toJson = some o
  | .select s => Decode.select inner fuel s.toJson = some s

/-- The values that a part itself holds. -/
def ownValues : Part → List Value
  | .expr (.constant value _) => [value]
  | .values (.constants constants) => constants
  | _ => []

/-- All floating-point numbers of a part are finite, at any depth. -/
def IsFinite (part : Part) : Prop :=
  ∀ inner, part.Contains inner → ∀ value ∈ inner.ownValues, value.isFinite = true

theorem isFinite_iff {part : Part} :
    part.IsFinite ↔ (∀ value ∈ part.ownValues, value.isFinite = true) ∧
      ∀ child ∈ part.children, child.IsFinite := by
  constructor
  · intro finite
    exact ⟨finite part (.refl part), fun child member inner contains =>
      finite inner (contains.of_child member)⟩
  · rintro ⟨own, children⟩ inner contains
    rcases contains_iff.1 contains with rfl | ⟨child, member, inside⟩
    · exact own
    · exact children child member inner inside

end Part

/-! ## Heights -/

theorem Expr.height_toJson_pos (expr : Expr) : 0 < expr.toJson.height := by
  cases expr <;> exact Nat.succ_pos _

theorem Table.height_toJson_pos (table : Table) : 0 < table.toJson.height := by
  cases table <;> exact Nat.succ_pos _

theorem OrderBy.height_toJson_pos (ordering : OrderBy) : 0 < ordering.toJson.height := by
  cases ordering <;> exact Nat.succ_pos _

/-- Every part is written as an object. -/
theorem Part.height_toJson_pos (part : Part) : 0 < part.toJson.height := by
  cases part with
  | expr e => exact e.height_toJson_pos
  | values vs => cases vs <;> exact Nat.succ_pos _
  | projection p => cases p <;> exact Nat.succ_pos _
  | table t => exact t.height_toJson_pos
  | ordering o => exact o.height_toJson_pos
  | select s => cases s; exact Nat.succ_pos _

/-- An object is higher than each of its members. -/
theorem Json.height_lt_of_mem {members : List (String × Json)} {json : Json} (name : String)
    (member : (name, json) ∈ members) : json.height < (Json.object members).height := by
  rw [Json.height, Nat.lt_succ_iff]
  induction members with
  | nil => cases member
  | cons first rest ih =>
    rw [Json.heightMembers]
    rcases List.mem_cons.1 member with rfl | later
    · exact Nat.le_max_left _ _
    · exact Nat.le_trans (ih later) (Nat.le_max_right _ _)

theorem Expr.height_le_listToJson {exprs : List Expr} {expr : Expr} (member : expr ∈ exprs) :
    expr.toJson.height ≤ Json.heightItems (Expr.listToJson exprs) := by
  rw [Expr.listToJson_eq]
  exact Json.heightItems_le.1 (Nat.le_refl _) _ (List.mem_map_of_mem member)

/-- The document of a child is lower than that of the expression. -/
theorem Expr.height_lt_of_child {expr : Expr} {child : Part} (member : child ∈ expr.children) :
    child.toJson.height < expr.toJson.height := by
  cases expr with
  | column _ _ _ | constant _ _ | input _ _ | fragment _ _ | parameter _ _ => cases member
  | array exprs _ =>
    obtain ⟨inner, listed, rfl⟩ := List.mem_map.1 member
    have lower := Expr.height_le_listToJson listed
    simp only [Part.toJson, Expr.toJson, variantJson, Json.height, Json.heightMembers]
    omega
  | function _ args _ =>
    obtain ⟨inner, listed, rfl⟩ := List.mem_map.1 member
    have lower := Expr.height_le_listToJson listed
    have written : args.isEmpty = false := by
      rw [List.isEmpty_eq_false_iff]
      exact List.ne_nil_of_mem listed
    simp only [Part.toJson, Expr.toJson, variantJson, written, List.cons_append, List.nil_append,
      Bool.false_eq_true, if_false, Json.height, Json.heightMembers]
    omega
  | record fields =>
    obtain ⟨field, listed, rfl⟩ := List.mem_map.1 member
    have lower : (Json.array [.string field.1, field.2.toJson]).height ≤
        Json.heightItems (Expr.fieldsToJson fields) := by
      rw [Expr.fieldsToJson_eq]
      exact Json.heightItems_le.1 (Nat.le_refl _) _ (List.mem_map.2 ⟨field, listed, rfl⟩)
    simp only [Part.toJson, Expr.toJson, variantJson, Json.height, Json.heightItems,
      Json.heightMembers] at lower ⊢
    omega
  | _ =>
    simp only [Expr.children, List.mem_cons, List.not_mem_nil, or_false] at member
    rcases member with rfl | rfl | rfl <;>
      simp only [Part.toJson, Expr.toJson, variantJson, Json.height, Json.heightMembers] <;> omega

/-- The document of a child is lower than that of the select. -/
theorem Select.height_lt_of_child {select : Select} {child : Part}
    (member : child ∈ select.children) : child.toJson.height < select.toJson.height := by
  obtain ⟨projection, table, predicate, grouping, ordering, offset, limit, distinct⟩ := select
  simp only [Select.children, Select.clauses, List.mem_cons, List.mem_append, List.mem_map,
    Option.mem_toList] at member
  rw [Select.toJson]
  rcases member with rfl | ⟨_, rfl, rfl⟩ |
    (((⟨_, rfl, rfl⟩ | ⟨_, rfl, rfl⟩) | ⟨_, rfl, rfl⟩) | ⟨_, rfl, rfl⟩) | ⟨_, rfl, rfl⟩
  · exact Json.height_lt_of_mem "projection" (by simp [Part.toJson])
  · exact Json.height_lt_of_mem "grouping"
      (by simp [Part.toJson, Expr.optionToJson, optionalMember])
  · exact Json.height_lt_of_mem "table"
      (by simp [Part.toJson, Table.optionToJson, optionalMember])
  · exact Json.height_lt_of_mem "predicate"
      (by simp [Part.toJson, Expr.optionToJson, optionalMember])
  · exact Json.height_lt_of_mem "ordering"
      (by simp [Part.toJson, OrderBy.optionToJson, optionalMember])
  · exact Json.height_lt_of_mem "offset"
      (by simp [Part.toJson, Expr.optionToJson, optionalMember])
  · exact Json.height_lt_of_mem "limit"
      (by simp [Part.toJson, Expr.optionToJson, optionalMember])

/-- The document of a child nests less deeply than the one it stands in. -/
theorem Part.height_lt_of_child {part child : Part} (member : child ∈ part.children) :
    child.toJson.height < part.toJson.height := by
  cases part with
  | expr e => exact Expr.height_lt_of_child member
  | values vs =>
    cases vs with
    | list elements =>
      obtain ⟨inner, listed, rfl⟩ := List.mem_map.1 member
      have lower := Expr.height_le_listToJson listed
      simp only [Part.toJson, InValues.toJson, Json.height, Json.heightMembers]
      omega
    | constants _ => cases member
    | subquery _ | dynamic _ =>
      obtain rfl := List.mem_singleton.1 member
      simp only [Part.toJson, InValues.toJson, Json.height, Json.heightMembers]
      omega
  | projection p =>
    cases p <;>
      simp only [Part.children, Projection.children, List.mem_cons, List.not_mem_nil, or_false]
        at member
    all_goals
      rcases member with rfl | rfl | rfl <;>
        simp only [Part.toJson, Projection.toJson, variantJson, Json.height, Json.heightMembers] <;>
        omega
  | table t =>
    cases t <;>
      simp only [Part.children, Table.children, List.mem_cons, List.not_mem_nil, or_false]
        at member
    all_goals
      rcases member with rfl | rfl | rfl <;>
        simp only [Part.toJson, Table.toJson, variantJson, Json.height, Json.heightMembers] <;>
        omega
  | ordering o =>
    cases o <;>
      simp only [Part.children, OrderBy.children, List.mem_cons, List.not_mem_nil, or_false]
        at member
    all_goals
      rcases member with rfl | rfl <;>
        simp only [Part.toJson, OrderBy.toJson, Json.height, Json.heightMembers] <;> omega
  | select s => exact Select.height_lt_of_child member

/-! ## One node -/

open Decode

-- The readers of single members compute as soon as the members are listed.
attribute [simp] variantJson Decode.variant Decode.part Decode.textPart Decode.typePart
  Decode.flagPart Json.member? Json.memberOr? Json.string? Json.bool?

section Nodes

variable {inner : Bool} {fuel : Nat}

theorem Expr.mapM_listToJson {exprs : List Expr}
    (back : ∀ expr ∈ exprs, Decode.expr true fuel expr.toJson = some expr) :
    (Expr.listToJson exprs).mapM (Decode.expr true fuel) = some exprs := by
  rw [Expr.listToJson_eq]
  exact mapM_map_eq_some back

theorem Expr.mapM_fieldsToJson {fields : List (String × Expr)}
    (back : ∀ field ∈ fields, Decode.expr true fuel field.2.toJson = some field.2) :
    (Expr.fieldsToJson fields).mapM (namedBy (Decode.expr true fuel)) = some fields := by
  rw [Expr.fieldsToJson_eq]
  refine mapM_map_eq_some fun field member => ?_
  rw [namedBy, back field member, Option.map_some]

/-- A column is read back from whatever document its table is read back from. The document stays a
variable, so that its number is never compared with the bound of identities by counting. -/
theorem Decode.expr_column {table : TableId} {json : Json}
    (read : TableId.ofJson? json = some table) (name : String) (type : DataType) :
    Decode.expr inner (fuel + 1) (variantJson "Column"
      [("table", json), ("name", .string name), ("ty", type.toJson)]) =
        some (.column table name type) := by
  simp [Decode.expr, read]

theorem Decode.expr_parameter {index : UInt64} {json : Json}
    (read : json.natBelow? (Nat.pow 2 64) = some index.toNat) (type : DataType) :
    Decode.expr inner (fuel + 1) (variantJson "Parameter"
      [("index", json), ("ty", type.toJson)]) = some (.parameter index type) := by
  simp only [Nat.pow_eq, Nat.reducePow] at read
  simp [Decode.expr, read]

/-- The document of an expression is read back if those of its children are and its own constants
are finite. -/
theorem Expr.readsBack_of_children {expr : Expr}
    (own : ∀ value ∈ (Part.expr expr).ownValues, value.isFinite = true)
    (children : ∀ child ∈ expr.children, ∀ inner, child.ReadsBack inner fuel) :
    Decode.expr inner (fuel + 1) expr.toJson = some expr := by
  cases expr with
  | column table name type => exact Decode.expr_column (TableId.ofJson?_toJson table) name type
  | parameter index type => exact Decode.expr_parameter (natBelow?_toNat index) type
  | fragment _ _ | input _ _ => simp [Expr.toJson, Decode.expr]
  | constant value type =>
    have read : Value.ofPart? value.toJson = some value :=
      Value.decode_toJson value (own value List.mem_cons_self)
    simp [Expr.toJson, Decode.expr, read]
  | aliased body _ | cast body _ _ | member body _ _ | aggregate _ body _ _ | unary _ body =>
    have back : Decode.expr true fuel body.toJson = some body :=
      children (.expr body) List.mem_cons_self true
    simp [Expr.toJson, Decode.expr, UnaryOp.decode_toJson, back]
  | binary _ left right | defaultIfEmpty left right _ =>
    have leftBack : Decode.expr true fuel left.toJson = some left :=
      children (.expr left) (by simp [Expr.children]) true
    have rightBack : Decode.expr true fuel right.toJson = some right :=
      children (.expr right) (by simp [Expr.children]) true
    simp [Expr.toJson, Decode.expr, BinaryOp.decode_toJson, leftBack, rightBack]
  | isIn value values =>
    have valueBack : Decode.expr true fuel value.toJson = some value :=
      children (.expr value) (by simp [Expr.children]) true
    have valuesBack : Decode.inValues true fuel values.toJson = some values :=
      children (.values values) (by simp [Expr.children]) true
    simp [Expr.toJson, Decode.expr, valueBack, valuesBack]
  | conditional test ifTrue ifFalse =>
    have testBack : Decode.expr true fuel test.toJson = some test :=
      children (.expr test) (by simp [Expr.children]) true
    have trueBack : Decode.expr true fuel ifTrue.toJson = some ifTrue :=
      children (.expr ifTrue) (by simp [Expr.children]) true
    have falseBack : Decode.expr true fuel ifFalse.toJson = some ifFalse :=
      children (.expr ifFalse) (by simp [Expr.children]) true
    simp [Expr.toJson, Decode.expr, testBack, trueBack, falseBack]
  | «exists» select =>
    have back : Decode.select true fuel select.toJson = some select :=
      children (.select select) List.mem_cons_self true
    simp [Expr.toJson, Decode.expr, back]
  | subquery kind select _ =>
    have back : Decode.select true fuel select.toJson = some select :=
      children (.select select) List.mem_cons_self true
    cases kind <;> simp [Expr.toJson, SubqueryKind.variant, Decode.expr, back]
  | array elements type =>
    have back : (Expr.listToJson elements).mapM (Decode.expr true fuel) = some elements :=
      Expr.mapM_listToJson fun element member =>
        children (.expr element) (List.mem_map_of_mem member) true
    simp [Expr.toJson, Decode.expr, listOf, back]
  | function name args type =>
    have back : (Expr.listToJson args).mapM (Decode.expr true fuel) = some args :=
      Expr.mapM_listToJson fun arg member =>
        children (.expr arg) (List.mem_map_of_mem member) true
    -- Without arguments the member is left out, and a missing one reads as none.
    cases args with
    | nil => simp [Expr.toJson, Decode.expr]
    | cons first rest => simp [Expr.toJson, Decode.expr, listOf, back]
  | record fields =>
    have back : (Expr.fieldsToJson fields).mapM (namedBy (Decode.expr true fuel)) = some fields :=
      Expr.mapM_fieldsToJson fun field member =>
        children (.expr field.2) (List.mem_map.2 ⟨field, member, rfl⟩) true
    simp [Expr.toJson, Decode.expr, listOf, back]

/-- The document of the values of a list is read back if those of their children are and the
constants among them are finite. -/
theorem InValues.readsBack_of_children {values : InValues}
    (own : ∀ value ∈ (Part.values values).ownValues, value.isFinite = true)
    (children : ∀ child ∈ values.children, ∀ inner, child.ReadsBack inner fuel) :
    Decode.inValues inner (fuel + 1) values.toJson = some values := by
  cases values with
  | subquery select =>
    have back : Decode.select true fuel select.toJson = some select :=
      children (.select select) List.mem_cons_self true
    simp [InValues.toJson, Decode.inValues, back]
  | list elements =>
    have back : (Expr.listToJson elements).mapM (Decode.expr true fuel) = some elements :=
      Expr.mapM_listToJson fun element member =>
        children (.expr element) (List.mem_map_of_mem member) true
    simp [InValues.toJson, Decode.inValues, listOf, back]
  | constants values =>
    have back : (values.map Value.toJson).mapM Value.ofPart? = some values :=
      mapM_map_eq_some fun value member => Value.decode_toJson value (own value member)
    simp only [InValues.toJson, Decode.inValues]
    generalize values.map Value.toJson = items at back ⊢
    simp [listOf, back]
  | dynamic source =>
    have back : Decode.expr true fuel source.toJson = some source :=
      children (.expr source) List.mem_cons_self true
    simp [InValues.toJson, Decode.inValues, back]

/-- The document of a projection is read back if those of its children are. -/
theorem Projection.readsBack_of_children {projection : Projection}
    (children : ∀ child ∈ projection.children, ∀ inner, child.ReadsBack inner fuel) :
    Decode.projection inner (fuel + 1) projection.toJson = some projection := by
  cases projection with
  | server body =>
    have back : Decode.expr true fuel body.toJson = some body :=
      children (.expr body) List.mem_cons_self true
    simp [Projection.toJson, Decode.projection, back]
  | client body after =>
    have bodyBack : Decode.expr true fuel body.toJson = some body :=
      children (.expr body) (by simp [Projection.children]) true
    have afterBack : Decode.expr true fuel after.toJson = some after :=
      children (.expr after) (by simp [Projection.children]) true
    simp [Projection.toJson, Decode.projection, bodyBack, afterBack]
  | composite outer inner result =>
    have outerBack : Decode.projection true fuel outer.toJson = some outer :=
      children (.projection outer) (by simp [Projection.children]) true
    have innerBack : Decode.projection true fuel inner.toJson = some inner :=
      children (.projection inner) (by simp [Projection.children]) true
    have resultBack : Decode.expr true fuel result.toJson = some result :=
      children (.expr result) (by simp [Projection.children]) true
    simp [Projection.toJson, Decode.projection, outerBack, innerBack, resultBack]

/-- The tables with an identity are read back from whatever document it is read back from. -/
theorem Decode.table_base {id : TableId} {json : Json} (read : TableId.ofJson? json = some id)
    (schema name preferred : String) :
    Decode.table inner (fuel + 1) (variantJson "Base"
      [("id", json), ("schema", .string schema), ("name", .string name),
        ("alias", .string preferred)]) = some (.base id schema name preferred) := by
  simp [Decode.table, read]

theorem Decode.table_subquery {id : TableId} {json document : Json} {select : Select}
    (read : TableId.ofJson? json = some id) (preferred : String)
    (back : Decode.select true fuel document = some select) :
    Decode.table inner (fuel + 1) (variantJson "Subquery"
      [("id", json), ("alias", .string preferred), ("select", document)]) =
        some (.subquery id preferred select) := by
  simp [Decode.table, read, back]

theorem Decode.table_setOperation {id : TableId} {json first second : Json} {left right : Select}
    (read : TableId.ofJson? json = some id) (preferred : String) (op : SetOperator)
    (leftBack : Decode.select true fuel first = some left)
    (rightBack : Decode.select true fuel second = some right) :
    Decode.table inner (fuel + 1) (variantJson "SetOperation"
      [("id", json), ("alias", .string preferred), ("operator", .string op.name),
        ("left", first), ("right", second)]) = some (.setOperation id preferred op left right) := by
  simp [Decode.table, read, SetOperator.decode_name, leftBack, rightBack]

/-- The document of a table is read back if those of its children are. -/
theorem Table.readsBack_of_children {table : Table}
    (children : ∀ child ∈ table.children, ∀ inner, child.ReadsBack inner fuel) :
    Decode.table inner (fuel + 1) table.toJson = some table := by
  cases table with
  | base id schema name preferred =>
    exact Decode.table_base (TableId.ofJson?_toJson id) schema name preferred
  | subquery id preferred select =>
    exact Decode.table_subquery (TableId.ofJson?_toJson id) preferred
      (children (.select select) List.mem_cons_self true)
  | setOperation id preferred op left right =>
    exact Decode.table_setOperation (TableId.ofJson?_toJson id) preferred op
      (children (.select left) (by simp [Table.children]) true)
      (children (.select right) (by simp [Table.children]) true)
  | join kind outer inner predicate =>
    have outerBack : Decode.table true fuel outer.toJson = some outer :=
      children (.table outer) (by simp [Table.children]) true
    have innerBack : Decode.table true fuel inner.toJson = some inner :=
      children (.table inner) (by simp [Table.children]) true
    have predicateBack : Decode.expr true fuel predicate.toJson = some predicate :=
      children (.expr predicate) (by simp [Table.children]) true
    cases kind <;>
      simp [Table.toJson, JoinKind.variant, Decode.table, outerBack, innerBack, predicateBack]
  | cross kind outer inner =>
    have outerBack : Decode.table true fuel outer.toJson = some outer :=
      children (.table outer) (by simp [Table.children]) true
    have innerBack : Decode.table true fuel inner.toJson = some inner :=
      children (.table inner) (by simp [Table.children]) true
    cases kind <;> simp [Table.toJson, CrossKind.variant, Decode.table, outerBack, innerBack]

/-- A part that may be absent is read back when it is left out or read back. -/
theorem Decode.optional_eq {α : Type} {read : Json → Option α} {write : α → Json} {name : String}
    {members : List (String × Json)} {part? : Option α}
    (named : Json.named name members = (part?.map write).toList)
    (back : ∀ part ∈ part?, 0 < (write part).height ∧ read (write part) = some part) :
    optional read name members = some part? := by
  unfold optional Json.memberOrNull?
  rw [named]
  cases part? with
  | none => rfl
  | some part =>
    obtain ⟨high, read⟩ := back part rfl
    simp only [Option.map_some, Option.toList_some]
    split
    · next null =>
      rw [Option.some.inj null] at high
      exact absurd high (Nat.lt_irrefl 0)
    · next json same =>
      cases same
      rw [read, Option.map_some]
    · next nothing => cases nothing

/-- The document of an ordering is read back if those of its children are. -/
theorem OrderBy.readsBack_of_children {ordering : OrderBy}
    (children : ∀ child ∈ ordering.children, ∀ inner, child.ReadsBack inner fuel) :
    Decode.orderBy inner (fuel + 1) ordering.toJson = some ordering := by
  cases ordering with
  | term expr descending =>
    have back : Decode.expr inner fuel expr.toJson = some expr :=
      children (.expr expr) List.mem_cons_self inner
    simp [OrderBy.toJson, Decode.orderBy, back, Decode.optional, Json.memberOrNull?]
  | andThen previous expr descending =>
    have back : Decode.expr inner fuel expr.toJson = some expr :=
      children (.expr expr) (by simp [OrderBy.children]) inner
    have previousBack : optional (Decode.orderBy inner fuel) "previous"
        [("expr", expr.toJson), ("descending", .bool descending), ("previous", previous.toJson)] =
          some (some previous) := by
      refine Decode.optional_eq (by simp : _ = ((some previous).map OrderBy.toJson).toList) ?_
      rintro _ ⟨⟩
      exact ⟨previous.height_toJson_pos,
        children (.ordering previous) (by simp [OrderBy.children]) inner⟩
    simp [OrderBy.toJson, Decode.orderBy, back, previousBack]

@[simp] theorem Json.named_append (name : String) (first second : List (String × Json)) :
    Json.named name (first ++ second) = Json.named name first ++ Json.named name second :=
  List.filterMap_append

@[simp] theorem Json.named_optionalMember (name other : String) (json? : Option Json) :
    Json.named name (optionalMember other json?) = if other = name then json?.toList else [] := by
  cases json? with
  | none => simp [optionalMember]
  | some json => simp [optionalMember]

theorem Expr.optionToJson_eq (expr? : Option Expr) :
    Expr.optionToJson expr? = expr?.map Expr.toJson := by
  cases expr? <;> rfl

theorem Table.optionToJson_eq (table? : Option Table) :
    Table.optionToJson table? = table?.map Table.toJson := by
  cases table? <;> rfl

theorem OrderBy.optionToJson_eq (ordering? : Option OrderBy) :
    OrderBy.optionToJson ordering? = ordering?.map OrderBy.toJson := by
  cases ordering? <;> rfl

/-- An expression among the clauses of a select, if it is there. -/
theorem Decode.optional_expr {name : String} {members : List (String × Json)} {expr? : Option Expr}
    (named : Json.named name members = (Expr.optionToJson expr?).toList)
    (back : ∀ expr ∈ expr?, Decode.expr inner fuel expr.toJson = some expr) :
    optional (Decode.expr inner fuel) name members = some expr? :=
  Decode.optional_eq (named.trans (by rw [Expr.optionToJson_eq]))
    fun expr member => ⟨expr.height_toJson_pos, back expr member⟩

/-- The document of a select is read back if those of its children are. -/
theorem Select.readsBack_of_children {select : Select}
    (children : ∀ child ∈ select.children, ∀ inner, child.ReadsBack inner fuel) :
    Decode.select inner (fuel + 1) select.toJson = some select := by
  obtain ⟨projection, table, predicate, grouping, ordering, offset, limit, distinct⟩ := select
  simp only [Select.children, Select.clauses, List.forall_mem_cons, List.forall_mem_append,
    List.forall_mem_map, Option.mem_toList] at children
  obtain ⟨projectionBack, groupingBack, ⟨⟨⟨tableBack, predicateBack⟩, orderingBack⟩, offsetBack⟩,
    limitBack⟩ := children
  rw [Select.toJson, Decode.select]
  generalize written : _ ++ [("distinct", Json.bool distinct)] = members
  have projectionRead : part (Decode.projection inner fuel) "projection" members =
      some projection := by
    have back : Decode.projection inner fuel projection.toJson = some projection :=
      projectionBack inner
    simp [← written, back]
  have tableRead : optional (Decode.table inner fuel) "table" members = some table :=
    Decode.optional_eq (by simp [← written, Table.optionToJson_eq])
      fun table member => ⟨table.height_toJson_pos, tableBack table member inner⟩
  have predicateRead : optional (Decode.expr inner fuel) "predicate" members = some predicate :=
    Decode.optional_expr (by simp [← written]) fun expr member => predicateBack expr member inner
  have groupingRead : optional (Decode.expr inner fuel) "grouping" members = some grouping :=
    Decode.optional_expr (by simp [← written]) fun expr member => groupingBack expr member inner
  have orderingRead : optional (Decode.orderBy inner fuel) "ordering" members = some ordering :=
    Decode.optional_eq (by simp [← written, OrderBy.optionToJson_eq])
      fun ordering member => ⟨ordering.height_toJson_pos, orderingBack ordering member inner⟩
  have offsetRead : optional (Decode.expr inner fuel) "offset" members = some offset :=
    Decode.optional_expr (by simp [← written]) fun expr member => offsetBack expr member inner
  have limitRead : optional (Decode.expr inner fuel) "limit" members = some limit :=
    Decode.optional_expr (by simp [← written]) fun expr member => limitBack expr member inner
  have distinctRead : flagPart "distinct" members = some distinct := by simp [← written]
  rw [projectionRead, tableRead, predicateRead, groupingRead, orderingRead, offsetRead, limitRead,
    distinctRead]
  rfl

end Nodes

/-! ## Whole queries -/

namespace Part

/-- A part is read back when its children are and its own values are finite. -/
theorem readsBack_of_children {part : Part} {inner : Bool} {fuel : Nat}
    (own : ∀ value ∈ part.ownValues, value.isFinite = true)
    (children : ∀ child ∈ part.children, ∀ inner, child.ReadsBack inner fuel) :
    part.ReadsBack inner (fuel + 1) := by
  cases part with
  | expr e => exact Expr.readsBack_of_children own children
  | values vs => exact InValues.readsBack_of_children own children
  | projection p => exact Projection.readsBack_of_children children
  | table t => exact Table.readsBack_of_children children
  | ordering o => exact OrderBy.readsBack_of_children children
  | select s => exact Select.readsBack_of_children children

/-- Induction on the fuel, which covers the heights of the documents. -/
theorem IsFinite.readsBack {part : Part} (finite : part.IsFinite) {fuel : Nat}
    (deep : part.toJson.height ≤ fuel) (inner : Bool) : part.ReadsBack inner fuel := by
  induction fuel generalizing part inner with
  | zero => exact absurd part.height_toJson_pos (Nat.not_lt.2 deep)
  | succ fuel ih =>
    obtain ⟨own, children⟩ := isFinite_iff.1 finite
    refine readsBack_of_children own fun child member inner => ?_
    have lower := height_lt_of_child member
    exact ih (children child member) (by omega) inner

end Part

/-- What is written as a document is read back from it, whenever its floating-point numbers are
finite: selects, tables, expressions, what a value is looked for in, projections, orderings, types,
values and inputs. -/
theorem decoding_undoes_encoding :
    (∀ select : Select, (Part.select select).IsFinite →
      Select.ofJson? select.toJson = some select) ∧
    (∀ table : Table, (Part.table table).IsFinite → Table.ofJson? table.toJson = some table) ∧
    (∀ expr : Expr, (Part.expr expr).IsFinite → Expr.ofJson? expr.toJson = some expr) ∧
    (∀ values : InValues, (Part.values values).IsFinite →
      InValues.ofJson? values.toJson = some values) ∧
    (∀ projection : Projection, (Part.projection projection).IsFinite →
      Projection.ofJson? projection.toJson = some projection) ∧
    (∀ ordering : OrderBy, (Part.ordering ordering).IsFinite →
      OrderBy.ofJson? ordering.toJson = some ordering) ∧
    (∀ type : DataType, DataType.ofJson? type.toJson = some type) ∧
    (∀ value : Value, value.isFinite = true → Value.ofTagged? value.toJson = some value) ∧
    ∀ inputs : Inputs, (∀ entry ∈ inputs.entries, entry.2.isFinite = true) →
      Inputs.ofJson? (Inputs.toJson inputs) = some inputs := by
  have back {part : Part} (finite : part.IsFinite) : part.ReadsBack false part.toJson.height :=
    finite.readsBack (Nat.le_refl _) false
  refine ⟨fun _ finite => back finite, fun _ finite => back finite, fun _ finite => back finite,
    fun _ finite => back finite, fun _ finite => back finite, fun _ finite => back finite,
    ?_, ?_, ?_⟩
  · exact DataType.ofJson?_toJson
  · exact Value.decode_toJson
  · exact Inputs.ofJson?_toJson

/-- A select with a bare function, a day before year zero, a leap second of a year beyond four
digits, an identifier and floating-point numbers, and with some of its clauses left out. -/
def Select.assorted : Select where
  projection := .composite (.server (.record [("now", .function "now" [] .timestamp)]))
    (.client (.column ⟨1⟩ "total" .float64) (.parameter 0 .float64)) (.parameter 1 .float64)
  table := some (.join .left (.base ⟨0⟩ "dbo" "orders" "o")
    (.base ⟨1⟩ "dbo" "sums" "s") (.constant (.bool true) .bool))
  predicate := some (.isIn (.column ⟨0⟩ "at" .timestamp) (.constants
    [.date ⟨-44, 3, 15, by decide, by decide, by decide⟩,
      .timestamp ⟨⟨12016, 12, 31, by decide, by decide, by decide⟩,
        ⟨23, 59, 60, 500000000, by decide, by decide, by decide, by decide⟩⟩,
      .uuid ⟨List.replicate 32 (Fin.last 15), rfl⟩,
      .record [("rates", .array [.float 0.1, .float (-0.0), .null])]]))
  grouping := none
  ordering := some (.andThen (.term (.column ⟨0⟩ "id" .int64) true) (.input "key" .string) false)
  offset := none
  limit := some (.unary (.convert .int32) (.constant (.int (-1)) .int64))
  distinct := true

theorem Select.assorted_isFinite : (Part.select Select.assorted).IsFinite := by
  have tenth : (0.1 : Float).isFinite = true := by decide
  have zero : (-0.0 : Float).isFinite = true := by decide
  simp [@Part.isFinite_iff (.select _), @Part.isFinite_iff (.expr _),
    @Part.isFinite_iff (.values _), @Part.isFinite_iff (.projection _),
    @Part.isFinite_iff (.table _), @Part.isFinite_iff (.ordering _), Part.ownValues, Part.children,
    Select.children, Select.clauses, Expr.children, InValues.children, Projection.children,
    Table.children, OrderBy.children, Select.assorted, Value.isFinite, Value.areFinite,
    Value.areFieldsFinite, tenth, zero]

/-- Inputs with a text and a floating-point number. -/
def Inputs.keyAndRate : Inputs :=
  ⟨[("key", .string "\"k\""), ("rate", .float 0.1)], by decide⟩

theorem Select.assorted_reads_back :
    (Part.select Select.assorted).IsFinite ∧
      Select.ofJson? Select.assorted.toJson = some Select.assorted ∧
      (∀ entry ∈ Inputs.keyAndRate.entries, entry.2.isFinite = true) ∧
      Inputs.ofJson? (Inputs.toJson Inputs.keyAndRate) = some Inputs.keyAndRate := by
  have finite : ∀ entry ∈ Inputs.keyAndRate.entries, entry.2.isFinite = true := by decide
  exact ⟨Select.assorted_isFinite, decoding_undoes_encoding.1 _ Select.assorted_isFinite, finite,
    decoding_undoes_encoding.2.2.2.2.2.2.2.2 _ finite⟩

end SqlLowering
