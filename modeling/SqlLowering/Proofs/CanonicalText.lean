import SqlLowering.Proofs.DocumentText
import SqlLowering.Proofs.RoundTrip
import SqlLowering.Query.Fingerprint

/-!
# The canonical text identifies a query

The document of a query holds finite floating-point numbers only, as the others are written as null.
So its text identifies the document, and the document is read back as the query when no number was
lost in it.
-/

namespace SqlLowering

/-! ## Documents hold finite numbers -/

namespace Json

attribute [simp] isFinite areFinite areMembersFinite

theorem areFinite_iff {items : List Json} :
    areFinite items = true ↔ ∀ item ∈ items, item.isFinite = true := by
  induction items with
  | nil => simp
  | cons item items ih => rw [areFinite, Bool.and_eq_true, ih, List.forall_mem_cons]

@[simp] theorem areMembersFinite_append (first second : List (String × Json)) :
    areMembersFinite (first ++ second) = (areMembersFinite first && areMembersFinite second) := by
  induction first with
  | nil => rfl
  | cons member first ih =>
    rw [List.cons_append, areMembersFinite, areMembersFinite, ih, Bool.and_assoc]

end Json

mutual

@[simp] theorem DataType.isFinite_toJson : ∀ type : DataType, type.toJson.isFinite = true
  | .bool | .int16 | .int32 | .int64 | .float32 | .float64 | .string | .blob | .date | .timestamp
  | .uuid => rfl
  | .record fields => by simp [DataType.toJson, DataType.areFinite_fieldsToJson fields]
  | .collection element => by simp [DataType.toJson, DataType.isFinite_toJson element]

theorem DataType.areFinite_fieldsToJson : ∀ fields : List FieldType,
    Json.areFinite (DataType.fieldsToJson fields) = true
  | [] => rfl
  | ⟨_, type, _⟩ :: rest => by
    simp [DataType.fieldsToJson, DataType.isFinite_toJson type,
      DataType.areFinite_fieldsToJson rest]

end

mutual

/-- What is not finite is written as null. -/
theorem Value.isFinite_toJson : ∀ value : Value, value.toJson.isFinite = true
  | .null | .bool _ | .int _ | .string _ | .date _ | .timestamp _ | .uuid _ => rfl
  | .float x => by
    rw [Value.toJson, Value.floatToJson]
    split
    · next finite => simp [finite]
    · rfl
  | .bytes content => by simp [Value.toJson, Json.areFinite_iff]
  | .array items => by simp [Value.toJson, Value.areFinite_itemsToJson items]
  | .record fields => by simp [Value.toJson, Value.areFinite_fieldsToJson fields]

theorem Value.areFinite_itemsToJson : ∀ items : List Value,
    Json.areFinite (Value.itemsToJson items) = true
  | [] => rfl
  | item :: rest => by
    simp [Value.itemsToJson, Value.isFinite_toJson item, Value.areFinite_itemsToJson rest]

theorem Value.areFinite_fieldsToJson : ∀ fields : List (String × Value),
    Json.areFinite (Value.fieldsToJson fields) = true
  | [] => rfl
  | (_, value) :: rest => by
    simp [Value.fieldsToJson, Value.isFinite_toJson value, Value.areFinite_fieldsToJson rest]

end

theorem UnaryOp.isFinite_toJson (op : UnaryOp) : op.toJson.isFinite = true := by
  cases op with
  | not | negate => rfl
  | convert type => simp [UnaryOp.toJson]

mutual

/-- The document of an expression has finite numbers only, whatever the constants in it are. -/
theorem Expr.isFinite_toJson : ∀ expr : Expr, expr.toJson.isFinite = true
  | .column .. | .input .. | .fragment .. | .parameter .. => by simp [Expr.toJson, TableId.toJson]
  | .constant value type => by simp [Expr.toJson, Value.isFinite_toJson value]
  | .aliased expr _ | .cast expr _ _ | .member expr _ _ | .aggregate _ expr _ _ => by
    simp [Expr.toJson, Expr.isFinite_toJson expr]
  | .unary op expr => by simp [Expr.toJson, UnaryOp.isFinite_toJson, Expr.isFinite_toJson expr]
  | .binary op left right => by
    simp [Expr.toJson, BinaryOp.toJson, Expr.isFinite_toJson left, Expr.isFinite_toJson right]
  | .defaultIfEmpty expr flag _ => by
    simp [Expr.toJson, Expr.isFinite_toJson expr, Expr.isFinite_toJson flag]
  | .conditional test ifTrue ifFalse => by
    simp [Expr.toJson, Expr.isFinite_toJson test, Expr.isFinite_toJson ifTrue,
      Expr.isFinite_toJson ifFalse]
  | .function _ exprs _ => by
    cases empty : exprs.isEmpty <;> simp [Expr.toJson, Expr.areFinite_listToJson exprs, empty]
  | .array exprs _ => by simp [Expr.toJson, Expr.areFinite_listToJson exprs]
  | .record fields => by simp [Expr.toJson, Expr.areFinite_fieldsToJson fields]
  | .exists select | .subquery _ select _ => by simp [Expr.toJson, Select.isFinite_toJson select]
  | .isIn value values => by
    simp [Expr.toJson, Expr.isFinite_toJson value, InValues.isFinite_toJson values]

theorem Expr.areFinite_listToJson : ∀ exprs : List Expr,
    Json.areFinite (Expr.listToJson exprs) = true
  | [] => rfl
  | expr :: rest => by
    simp [Expr.listToJson, Expr.isFinite_toJson expr, Expr.areFinite_listToJson rest]

theorem Expr.areFinite_fieldsToJson : ∀ fields : List (String × Expr),
    Json.areFinite (Expr.fieldsToJson fields) = true
  | [] => rfl
  | (_, expr) :: rest => by
    simp [Expr.fieldsToJson, Expr.isFinite_toJson expr, Expr.areFinite_fieldsToJson rest]

theorem Expr.areMembersFinite_optional (name : String) : ∀ expr? : Option Expr,
    Json.areMembersFinite (optionalMember name (Expr.optionToJson expr?)) = true
  | none => rfl
  | some expr => by simp [Expr.optionToJson, optionalMember, Expr.isFinite_toJson expr]

theorem InValues.isFinite_toJson : ∀ values : InValues, values.toJson.isFinite = true
  | .subquery select => by simp [InValues.toJson, Select.isFinite_toJson select]
  | .list elements => by simp [InValues.toJson, Expr.areFinite_listToJson elements]
  | .constants values => by
    simp [InValues.toJson, Json.areFinite_iff, Value.isFinite_toJson]
  | .dynamic expr => by simp [InValues.toJson, Expr.isFinite_toJson expr]

theorem Projection.isFinite_toJson : ∀ projection : Projection,
    projection.toJson.isFinite = true
  | .server body => by simp [Projection.toJson, Expr.isFinite_toJson body]
  | .client body after => by
    simp [Projection.toJson, Expr.isFinite_toJson body, Expr.isFinite_toJson after]
  | .composite outer inner result => by
    simp [Projection.toJson, Projection.isFinite_toJson outer, Projection.isFinite_toJson inner,
      Expr.isFinite_toJson result]

theorem Table.isFinite_toJson : ∀ table : Table, table.toJson.isFinite = true
  | .base .. => by simp [Table.toJson, TableId.toJson]
  | .subquery _ _ select => by simp [Table.toJson, TableId.toJson, Select.isFinite_toJson select]
  | .setOperation _ _ _ left right => by
    simp [Table.toJson, TableId.toJson, Select.isFinite_toJson left, Select.isFinite_toJson right]
  | .join _ outer inner predicate => by
    simp [Table.toJson, Table.isFinite_toJson outer, Table.isFinite_toJson inner,
      Expr.isFinite_toJson predicate]
  | .cross _ outer inner => by
    simp [Table.toJson, Table.isFinite_toJson outer, Table.isFinite_toJson inner]

theorem Table.areMembersFinite_optional (name : String) : ∀ table? : Option Table,
    Json.areMembersFinite (optionalMember name (Table.optionToJson table?)) = true
  | none => rfl
  | some table => by simp [Table.optionToJson, optionalMember, Table.isFinite_toJson table]

theorem OrderBy.isFinite_toJson : ∀ ordering : OrderBy, ordering.toJson.isFinite = true
  | .term expr _ => by simp [OrderBy.toJson, Expr.isFinite_toJson expr]
  | .andThen previous expr _ => by
    simp [OrderBy.toJson, OrderBy.isFinite_toJson previous, Expr.isFinite_toJson expr]

theorem OrderBy.areMembersFinite_optional (name : String) : ∀ ordering? : Option OrderBy,
    Json.areMembersFinite (optionalMember name (OrderBy.optionToJson ordering?)) = true
  | none => rfl
  | some ordering => by
    simp [OrderBy.optionToJson, optionalMember, OrderBy.isFinite_toJson ordering]

theorem Select.isFinite_toJson : ∀ select : Select, select.toJson.isFinite = true
  | ⟨projection, table, predicate, grouping, ordering, offset, limit, _⟩ => by
    simp [Select.toJson, Projection.isFinite_toJson projection,
      Table.areMembersFinite_optional _ table, Expr.areMembersFinite_optional _ predicate,
      Expr.areMembersFinite_optional _ grouping, OrderBy.areMembersFinite_optional _ ordering,
      Expr.areMembersFinite_optional _ offset, Expr.areMembersFinite_optional _ limit]

end

/-! ## The canonical text -/

/-- Selects whose floating-point numbers are finite have different canonical texts unless they are
the same select. Numbers are compared by their bits, so that a zero differs from a negative zero. -/
theorem Select.canonicalText_identifies (first second : Select)
    (finite : (Part.select first).IsFinite) (finiteToo : (Part.select second).IsFinite) :
    first.canonicalText = second.canonicalText ↔ first = second := by
  constructor
  · intro same
    have documents : first.toJson = second.toJson :=
      Json.compact_inj first.isFinite_toJson second.isFinite_toJson same
    have read : Select.ofJson? first.toJson = some first :=
      finite.readsBack (Nat.le_refl _) false
    have readToo : Select.ofJson? second.toJson = some second :=
      finiteToo.readsBack (Nat.le_refl _) false
    rw [documents, readToo] at read
    exact (Option.some.inj read).symm
  · rintro rfl
    rfl

/-- The select of one floating-point number. -/
def Select.ofFloat (x : Float) : Select where
  projection := .server (.constant (.float x) .float64)
  table := none
  predicate := none
  grouping := none
  ordering := none
  offset := none
  limit := none
  distinct := false

theorem Select.isFinite_ofFloat {x : Float} (finite : x.isFinite = true) :
    (Part.select (Select.ofFloat x)).IsFinite := by
  simp [@Part.isFinite_iff (.select _), @Part.isFinite_iff (.expr _),
    @Part.isFinite_iff (.projection _), Part.ownValues, Part.children, Select.children,
    Select.clauses, Expr.children, Projection.children, Select.ofFloat, Value.isFinite, finite]

/-- The two zeros are told apart. -/
theorem Select.canonicalText_zeros :
    (Part.select (Select.ofFloat 0.0)).IsFinite ∧ (Part.select (Select.ofFloat (-0.0))).IsFinite ∧
      (Select.ofFloat 0.0).canonicalText ≠ (Select.ofFloat (-0.0)).canonicalText := by
  have zero := Select.isFinite_ofFloat (by decide : (0.0 : Float).isFinite = true)
  have negative := Select.isFinite_ofFloat (by decide : (-0.0 : Float).isFinite = true)
  refine ⟨zero, negative, fun same => ?_⟩
  have selects := (Select.canonicalText_identifies _ _ zero negative).1 same
  simp only [Select.ofFloat, Select.mk.injEq, Projection.server.injEq, Expr.constant.injEq,
    Value.float.injEq, and_true] at selects
  exact absurd (congrArg Float.toBits selects) (by decide)

end SqlLowering
