import SqlLowering.Proofs.WrittenForms
import SqlLowering.DataType.Json
import SqlLowering.Value.Json

/-!
# Types, values and inputs are read back from their documents

A type is read back at every depth that its document does not exceed. A value is read back when its
floating-point numbers are finite, at whatever depth they stand; the others have no document. Inputs
are written in order of their names, so that putting them back one by one gives the same map.
-/

namespace SqlLowering

/-! ## Members and heights of documents -/

namespace Json

@[simp] theorem named_nil (name : String) : named name [] = [] :=
  rfl

@[simp] theorem named_cons (name other : String) (value : Json) (rest : List (String × Json)) :
    named name ((other, value) :: rest) =
      if other = name then value :: named name rest else named name rest := by
  by_cases same : other = name
  · rw [if_pos same]
    exact List.filterMap_cons_some (if_pos same)
  · rw [if_neg same]
    exact List.filterMap_cons_none (if_neg same)

theorem heightItems_le {fuel : Nat} {items : List Json} :
    heightItems items ≤ fuel ↔ ∀ item ∈ items, item.height ≤ fuel := by
  induction items with
  | nil => simp [heightItems]
  | cons item items ih => rw [heightItems, Nat.max_le, ih, List.forall_mem_cons]

end Json

/-! ## Types -/

namespace DataType

mutual

/-- A type is read back at every depth that suffices. -/
theorem decode_toJson {inner : Bool} : ∀ (type : DataType) {fuel : Nat},
    type.toJson.height ≤ fuel → decode inner fuel type.toJson = some type
  | .bool, _, _ | .int16, _, _ | .int32, _, _ | .int64, _, _ | .float32, _, _ | .float64, _, _
  | .string, _, _ | .blob, _, _ | .date, _, _ | .timestamp, _, _ | .uuid, _, _ => by
    simp [toJson, decode, ofName?]
  | .record fields, fuel, deep => by
    simp only [toJson, Json.height, Json.heightMembers] at deep
    obtain ⟨less, rfl⟩ : ∃ less, fuel = less + 1 := ⟨fuel - 1, by omega⟩
    simp [toJson, decode, decodeFields_toJson fields (by omega : _ ≤ less)]
  | .collection element, fuel, deep => by
    simp only [toJson, Json.height, Json.heightMembers] at deep
    obtain ⟨less, rfl⟩ : ∃ less, fuel = less + 1 := ⟨fuel - 1, by omega⟩
    simp [toJson, decode, decode_toJson element (by omega : _ ≤ less)]

theorem decodeFields_toJson {inner : Bool} : ∀ (fields : List FieldType) {fuel : Nat},
    Json.heightItems (fieldsToJson fields) ≤ fuel →
      (fieldsToJson fields).mapM (decodeField inner fuel) = some fields
  | [], _, _ => rfl
  | ⟨name, type, nullable⟩ :: rest, fuel, deep => by
    simp only [fieldsToJson, Json.heightItems, Json.height, Json.heightMembers] at deep
    obtain ⟨less, rfl⟩ : ∃ less, fuel = less + 1 := ⟨fuel - 1, by omega⟩
    have first : decodeField inner (less + 1) (.object [("name", .string name),
        ("data_type", type.toJson), ("nullable", .bool nullable)]) =
          some ⟨name, type, nullable⟩ := by
      simp [decodeField, Json.member?, Json.memberOr?, Json.string?, Json.bool?,
        decode_toJson type (by omega : _ ≤ less)]
    rw [fieldsToJson, List.mapM_cons, first, decodeFields_toJson rest (by omega)]
    rfl

end

theorem ofJson?_toJson (type : DataType) : ofJson? type.toJson = some type :=
  decode_toJson type (Nat.le_refl _)

@[simp] theorem ofPart?_toJson (type : DataType) : ofPart? type.toJson = some type :=
  decode_toJson type (Nat.le_refl _)

end DataType

/-! ## Values -/

namespace Value

mutual

/-- Whether all floating-point numbers of a value are finite. -/
def isFinite : Value → Bool
  | .float x => x.isFinite
  | .array items => areFinite items
  | .record fields => areFieldsFinite fields
  | _ => true

/-- Whether all floating-point numbers of some values are finite. -/
def areFinite : List Value → Bool
  | [] => true
  | item :: rest => item.isFinite && areFinite rest

/-- Whether all floating-point numbers of some fields are finite. -/
def areFieldsFinite : List (String × Value) → Bool
  | [] => true
  | (_, value) :: rest => value.isFinite && areFieldsFinite rest

end

theorem int64?_toInt (i : Int64) : (Json.int i.toInt).int64? = some i := by
  rw [Json.int64?, if_pos ⟨Int64.minValue_le_toInt i, Int64.toInt_le i⟩, Int64.ofInt_toInt]

theorem byte?_toNat (b : UInt8) : (Json.int b.toNat).byte? = some b := by
  have range : b.toNat < 256 := b.toNat_lt
  rw [Json.byte?, Json.natBelow?, if_pos ⟨by omega, by omega⟩]
  simp

mutual

/-- A value is read back, inside a node or on its own. -/
theorem decode_toJson {inner : Bool} : ∀ value : Value, value.isFinite = true →
    decode inner value.toJson = some value
  | .null, _ => by simp [toJson, decode]
  | .bool b, _ | .string s, _ => by simp [toJson, decode]
  | .int i, _ => by simp [toJson, decode, int64?_toInt]
  | .float x, finite => by
    rw [isFinite] at finite
    simp [toJson, floatToJson, finite, decode, Json.float?]
  | .bytes content, _ => by
    have bytes : (content.map fun b => Json.int b.toNat).mapM Json.byte? = some content :=
      mapM_map_eq_some fun b _ => byte?_toNat b
    simp [toJson, decode, bytes]
  | .date d, _ => by simp [toJson, decode, Calendar.Date.ofString?_toString]
  | .timestamp t, _ => by simp [toJson, decode, Calendar.Timestamp.ofWritten?_toString]
  | .uuid u, _ => by simp [toJson, decode, Uuid.ofString?_toString]
  | .array items, finite => by simp [toJson, decode, decodeItems_toJson items finite]
  | .record fields, finite => by simp [toJson, decode, decodeFields_toJson fields finite]

theorem decodeItems_toJson {inner : Bool} : ∀ items : List Value, areFinite items = true →
    decodeItems inner (itemsToJson items) = some items
  | [], _ => rfl
  | item :: rest, finite => by
    rw [areFinite, Bool.and_eq_true] at finite
    simp [itemsToJson, decodeItems, decode_toJson item finite.1, decodeItems_toJson rest finite.2]

theorem decodeFields_toJson {inner : Bool} : ∀ fields : List (String × Value),
    areFieldsFinite fields = true → decodeFields inner (fieldsToJson fields) = some fields
  | [], _ => rfl
  | (name, value) :: rest, finite => by
    rw [areFieldsFinite, Bool.and_eq_true] at finite
    simp [fieldsToJson, decodeFields, decode_toJson value finite.1,
      decodeFields_toJson rest finite.2]

end

end Value

/-! ## Inputs -/

/-- An entry whose name comes after all others is put at the end. -/
theorem putEntry_eq_append {α : Type} {name : String} {value : α} {entries : List (String × α)}
    (after : ∀ entry ∈ entries, entry.1 < name) :
    putEntry name value entries = entries ++ [(name, value)] := by
  induction entries with
  | nil => rfl
  | cons first rest ih =>
    have before : first.1 < name := after first List.mem_cons_self
    have others := ih fun entry member => after entry (List.mem_cons_of_mem _ member)
    rw [putEntry, if_neg (String.lt_asymm before), if_neg (String.ne_of_lt before).symm, others,
      List.cons_append]

namespace NameMap

variable {α : Type}

theorem ext {first second : NameMap α} (same : first.entries = second.entries) :
    first = second := by
  cases first
  cases second
  cases same
  rfl

/-- Entries in order of their names are put one behind the other. -/
theorem entries_foldl_insert (rest : List (String × α)) (map : NameMap α)
    (sorted : (map.entries ++ rest).Pairwise fun a b => a.1 < b.1) :
    (rest.foldl (fun map entry => map.insert entry.1 entry.2) map).entries =
      map.entries ++ rest := by
  induction rest generalizing map with
  | nil => rw [List.foldl_nil, List.append_nil]
  | cons entry rest ih =>
    have after : ∀ other ∈ map.entries, other.1 < entry.1 := fun other member =>
      (List.pairwise_append.1 sorted).2.2 other member entry List.mem_cons_self
    have put : (map.insert entry.1 entry.2).entries = map.entries ++ [entry] :=
      putEntry_eq_append after
    rw [List.foldl_cons, ih, put, List.append_assoc, List.singleton_append]
    rwa [put, List.append_assoc, List.singleton_append]

theorem ofList_entries (map : NameMap α) : ofList map.entries = map := by
  have entries : (ofList map.entries).entries = map.entries :=
    entries_foldl_insert map.entries empty map.sorted
  exact NameMap.ext entries

end NameMap

/-- Inputs are read back when all their values are. -/
theorem Inputs.ofJson?_toJson (inputs : Inputs)
    (finite : ∀ entry ∈ inputs.entries, entry.2.isFinite = true) :
    Inputs.ofJson? (Inputs.toJson inputs) = some inputs := by
  rw [Inputs.toJson, Inputs.ofJson?, mapM_map_eq_some]
  · exact congrArg some (NameMap.ofList_entries inputs)
  · intro entry member
    have read : Value.ofTagged? entry.2.toJson = some entry.2 :=
      Value.decode_toJson entry.2 (finite entry member)
    simp [read]

end SqlLowering
