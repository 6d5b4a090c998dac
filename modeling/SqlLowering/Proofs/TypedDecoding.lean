import SqlLowering.Proofs.Conformance
import SqlLowering.Proofs.IntegerArithmetic
import SqlLowering.Proofs.ValueReading

/-!
# What texts and documents denote at a type

A document has no marks of the kinds of its values, so what it denotes depends on the type that is
wanted. `Value.Denotes` gives the rules, one for each way in which a value is written: a record is
written as an object, or in any number of arrays around one, and its fields are looked up by the
names that the type has; the items of a collection are written one by one. Decoding finds the value
that a document denotes, if there is one (`Value.ofJson_eq_ok_iff`).

Days, moments and identifiers are written as text, in documents as in rows, and their text as values
is of that form.
-/

namespace SqlLowering

open Calendar

/-! ## Scalars in documents -/

theorem Json.int64?_eq_some_iff {json : Json} {i : Int64} :
    json.int64? = some i ↔ json = .int i.toInt := by
  cases json with
  | int n =>
    rw [Json.int.injEq, eq_comm (a := n)]
    exact int64Of?_eq_some_iff
  | _ => exact iff_of_false (Option.some_ne_none i).symm (by simp)

/-- A byte is written as its number and in no other way. -/
theorem Json.byte?_eq_some_iff {json : Json} {b : UInt8} :
    json.byte? = some b ↔ json = .int b.toNat := by
  constructor
  · intro read
    cases json with
    | int n =>
      rw [byte?, natBelow?] at read
      split at read
      · next range =>
        cases read
        have size : n.toNat < 256 := by omega
        have value : n.toNat.toUInt8.toNat = n.toNat := UInt8.toNat_ofNat_of_lt' size
        rw [value, Int.toNat_of_nonneg range.1]
      · cases read
    | _ => cases read
  · rintro rfl
    exact Value.byte?_toNat b

/-- Bytes are written as their numbers, in order, and in no other way. -/
theorem mapM_byte?_eq_some_iff {items : List Json} {content : List UInt8} :
    items.mapM Json.byte? = some content ↔ items = content.map fun b => .int b.toNat := by
  constructor
  · intro read
    induction items generalizing content with
    | nil =>
      cases read
      rfl
    | cons item rest ih =>
      rw [List.mapM_cons] at read
      simp only [Option.bind_eq_bind, Option.bind_eq_some_iff, Option.pure_def,
        Option.some.injEq] at read
      obtain ⟨b, byte, others, restRead, rfl⟩ := read
      rw [List.map_cons, Json.byte?_eq_some_iff.1 byte, ih restRead]
  · rintro rfl
    exact mapM_map_eq_some fun b _ => Value.byte?_toNat b

theorem Calendar.Timestamp.ofString?_toString (t : Timestamp) :
    Timestamp.ofString? t.toString = some t := by
  rw [Timestamp.ofString?, Timestamp.ofWritten?_toString]
  rfl

namespace Value

/-! ## Denoted values -/

mutual

/-- What a document denotes at a type. -/
inductive Denotes : DataType → Json → Value → Prop
  | null (type : DataType) : Denotes type .null .null
  | bool (b : Bool) : Denotes .bool (.bool b) (.bool b)
  /-- A truth value may be an integer. -/
  | truth (i : Int64) : Denotes .bool (.int i.toInt) (.bool (i != 0))
  /-- Integers and floating-point numbers have no sizes. -/
  | int {type : DataType} (i : Int64) : type = .int16 ∨ type = .int32 ∨ type = .int64 →
      Denotes type (.int i.toInt) (.int i)
  | float {type : DataType} (json : Json) {x : Float} : type = .float32 ∨ type = .float64 →
      json.float? = some x → Denotes type json (.float x)
  | string (s : String) : Denotes .string (.string s) (.string s)
  | blob (content : List UInt8) :
      Denotes .blob (.array (content.map fun b => .int b.toNat)) (.bytes content)
  | date {s : String} {d : Date} : Date.ofString? s = some d → Denotes .date (.string s) (.date d)
  | timestamp {s : String} {t : Timestamp} :
      Timestamp.ofString? s = some t → Denotes .timestamp (.string s) (.timestamp t)
  | uuid {s : String} {u : Uuid} : Uuid.ofString? s = some u → Denotes .uuid (.string s) (.uuid u)
  | record {types : List FieldType} {members : List (String × Json)}
      {fields : List (String × Value)} :
      DenotesFields types members fields →
      Denotes (.record types) (.object members) (.record fields)
  /-- Where a record is wanted, an array stands for its first item, -/
  | first {types : List FieldType} {item : Json} {others : List Json} {v : Value} :
      Denotes (.record types) item v → Denotes (.record types) (.array (item :: others)) v
  /-- and for null without items. -/
  | nothing (types : List FieldType) : Denotes (.record types) (.array []) .null
  | collection {element : DataType} {items : List Json} {values : List Value} :
      DenotesItems element items values →
      Denotes (.collection element) (.array items) (.array values)

/-- What the members of an object denote at the fields of a record: one value for each field of the
type, by its name. -/
inductive DenotesFields :
    List FieldType → List (String × Json) → List (String × Value) → Prop
  | nil (members : List (String × Json)) : DenotesFields [] members []
  | found {name : String} {type : DataType} {nullable : Bool} {types : List FieldType}
      {members : List (String × Json)} {json : Json} {v : Value} {fields : List (String × Value)} :
      Json.lastMember? name members = some json → Denotes type json v →
      DenotesFields types members fields →
      DenotesFields (⟨name, type, nullable⟩ :: types) members ((name, v) :: fields)
  | missing {name : String} {type : DataType} {nullable : Bool} {types : List FieldType}
      {members : List (String × Json)} {fields : List (String × Value)} :
      Json.lastMember? name members = none → DenotesFields types members fields →
      DenotesFields (⟨name, type, nullable⟩ :: types) members ((name, .null) :: fields)

/-- What the items of an array denote one by one. -/
inductive DenotesItems : DataType → List Json → List Value → Prop
  | nil (element : DataType) : DenotesItems element [] []
  | cons {element : DataType} {item : Json} {items : List Json} {v : Value} {values : List Value} :
      Denotes element item v → DenotesItems element items values →
      DenotesItems element (item :: items) (v :: values)

end

/-! ## Decoding finds what is denoted -/

theorem eq_int_of_integerOfJson {type : DataType} {json : Json} {i : Int64}
    (read : integerOfJson type json = .ok i) : json = .int i.toInt := by
  unfold integerOfJson at read
  split at read
  · next found =>
    cases read
    exact Json.int64?_eq_some_iff.1 found
  · cases read

@[simp]
theorem integerOfJson_toInt (type : DataType) (i : Int64) :
    integerOfJson type (.int i.toInt) = .ok i := by
  rw [integerOfJson, int64?_toInt]

theorem ofJson_null (type : DataType) : ofJson type .null = .ok .null := by
  cases type <;> rfl

/-- What is decoded at a scalar type is denoted by the document at that type. -/
theorem denotes_of_ofJson_scalar {type : DataType} {json : Json} {v : Value}
    (scalar : type.isScalar = true) (decoded : ofJson type json = .ok v) :
    Denotes type json v := by
  cases json with
  | null =>
    rw [ofJson_null] at decoded
    cases decoded
    exact .null type
  | bool b =>
    cases type with
    | bool =>
      cases decoded
      exact .bool b
    | record _ | collection _ => cases scalar
    | _ => cases decoded
  | int n =>
    cases type with
    | bool =>
      simp only [ofJson, Except.bind_eq_ok, Except.pure_eq_ok] at decoded
      obtain ⟨i, read, rfl⟩ := decoded
      rw [eq_int_of_integerOfJson read]
      exact .truth i
    | int16 | int32 | int64 =>
      simp only [ofJson, Except.bind_eq_ok, Except.pure_eq_ok] at decoded
      obtain ⟨i, read, rfl⟩ := decoded
      rw [eq_int_of_integerOfJson read]
      exact .int i (by simp)
    | float32 | float64 =>
      cases decoded
      exact .float _ (by simp) rfl
    | record _ | collection _ => cases scalar
    | _ => cases decoded
  | float x =>
    cases type with
    | float32 | float64 =>
      cases decoded
      exact .float _ (by simp) rfl
    | record _ | collection _ => cases scalar
    | _ => cases decoded
  | string s =>
    cases type with
    | string =>
      cases decoded
      exact .string s
    | date =>
      rw [ofJson, readDate] at decoded
      split at decoded <;> cases decoded
      next d read => exact .date read
    | timestamp =>
      rw [ofJson, readTimestamp] at decoded
      split at decoded <;> cases decoded
      next t read => exact .timestamp read
    | uuid =>
      rw [ofJson, readUuid] at decoded
      split at decoded <;> cases decoded
      next u read => exact .uuid read
    | record _ | collection _ => cases scalar
    | _ => cases decoded
  | array items =>
    cases type with
    | blob =>
      rw [ofJson] at decoded
      split at decoded <;> cases decoded
      next content read =>
        rw [mapM_byte?_eq_some_iff.1 read]
        exact .blob content
    | record _ | collection _ => cases scalar
    | _ => cases decoded
  | object members =>
    cases type with
    | record _ | collection _ => cases scalar
    | _ => cases decoded

/-! ### Records and collections -/

theorem ofJson_first (types : List FieldType) (item : Json) (others : List Json) :
    ofJson (.record types) (.array (item :: others)) = ofJson (.record types) item := by
  cases item <;> rfl

theorem ofJson_object (types : List FieldType) (members : List (String × Json)) :
    ofJson (.record types) (.object members) =
      (fieldsOfJson types members >>= fun fields => pure (.record fields)) :=
  rfl

/-- A record is decoded from the object inside of all arrays. -/
theorem denotes_of_ofJson_record {types : List FieldType} {json : Json} {v : Value}
    (fieldsDenoted : ∀ {members : List (String × Json)} {fields : List (String × Value)},
      fieldsOfJson types members = .ok fields → DenotesFields types members fields)
    (decoded : ofJson (.record types) json = .ok v) : Denotes (.record types) json v := by
  -- The type stays the same while arrays are taken off, so the induction is on the document alone.
  fun_induction Json.innermostFirst json with
  | case1 =>
    cases decoded
    exact .nothing types
  | case2 item others ih =>
    rw [ofJson_first] at decoded
    exact .first (ih decoded)
  | case3 json noItems items =>
    cases json with
    | null =>
      cases decoded
      exact .null _
    | object members =>
      rw [ofJson_object] at decoded
      simp only [Except.bind_eq_ok, Except.pure_eq_ok] at decoded
      obtain ⟨fields, fieldsDecoded, rfl⟩ := decoded
      exact .record (fieldsDenoted fieldsDecoded)
    | array held =>
      cases held with
      | nil => exact (noItems rfl).elim
      | cons item others => exact (items item others rfl).elim
    | _ => cases decoded

theorem denotesItems_of_mapM {element : DataType} {items : List Json} {values : List Value}
    (each : ∀ {json : Json} {v : Value}, ofJson element json = .ok v → Denotes element json v)
    (decoded : items.mapM (ofJson element) = .ok values) : DenotesItems element items values := by
  induction items generalizing values with
  | nil =>
    cases decoded
    exact .nil element
  | cons item rest ih =>
    rw [List.mapM_cons] at decoded
    simp only [Except.bind_eq_ok, Except.pure_eq_ok] at decoded
    obtain ⟨v, itemDecoded, others, restDecoded, rfl⟩ := decoded
    exact .cons (each itemDecoded) (ih restDecoded)

mutual

/-- What is decoded at a type is denoted by the document at that type. -/
theorem denotes_of_ofJson : ∀ (type : DataType) {json : Json} {v : Value},
    ofJson type json = .ok v → Denotes type json v
  | .record types, _, _, decoded =>
    denotes_of_ofJson_record (denotesFields_of_fieldsOfJson types) decoded
  | .collection element, json, v, decoded => by
    cases json with
    | null =>
      cases decoded
      exact .null _
    | array items =>
      simp only [ofJson, Except.bind_eq_ok, Except.pure_eq_ok] at decoded
      obtain ⟨values, itemsDecoded, rfl⟩ := decoded
      exact .collection (denotesItems_of_mapM (denotes_of_ofJson element) itemsDecoded)
    | _ => cases decoded
  | .bool, _, _, decoded | .int16, _, _, decoded | .int32, _, _, decoded | .int64, _, _, decoded
  | .float32, _, _, decoded | .float64, _, _, decoded | .string, _, _, decoded
  | .blob, _, _, decoded | .date, _, _, decoded | .timestamp, _, _, decoded
  | .uuid, _, _, decoded => denotes_of_ofJson_scalar rfl decoded

/-- The fields that are decoded are denoted by the members, each at its type. -/
theorem denotesFields_of_fieldsOfJson : ∀ (types : List FieldType)
    {members : List (String × Json)} {fields : List (String × Value)},
    fieldsOfJson types members = .ok fields → DenotesFields types members fields
  | [], members, fields, decoded => by
    cases decoded
    exact .nil members
  | ⟨name, type, nullable⟩ :: rest, members, fields, decoded => by
    rw [fieldsOfJson] at decoded
    split at decoded
    · next json found =>
      simp only [Except.bind_eq_ok, Except.pure_eq_ok] at decoded
      obtain ⟨v, valueDecoded, others, othersDecoded, rfl⟩ := decoded
      exact .found found (denotes_of_ofJson type valueDecoded)
        (denotesFields_of_fieldsOfJson rest othersDecoded)
    · next missing =>
      simp only [Except.bind_eq_ok, Except.pure_eq_ok] at decoded
      obtain ⟨v, nothing, others, othersDecoded, rfl⟩ := decoded
      cases nothing
      exact .missing missing (denotesFields_of_fieldsOfJson rest othersDecoded)

end

mutual

/-- What a document denotes at a type is what it is decoded to. -/
theorem ofJson_of_denotes {type : DataType} {json : Json} {v : Value} :
    Denotes type json v → ofJson type json = .ok v
  | .null type => ofJson_null type
  | .bool _ | .string _ | .nothing _ => rfl
  | .truth i => by
    rw [ofJson, integerOfJson_toInt]
    rfl
  | .int i integer => by
    rcases integer with rfl | rfl | rfl <;> rw [ofJson, integerOfJson_toInt] <;> rfl
  | .float json real read => by
    cases json <;> cases read <;> rcases real with rfl | rfl <;> rfl
  | .blob content => by rw [ofJson, mapM_byte?_eq_some_iff.2 rfl]
  | .date read => by rw [ofJson, readDate, read]
  | .timestamp read => by rw [ofJson, readTimestamp, read]
  | .uuid read => by rw [ofJson, readUuid, read]
  | .record fields => by
    rw [ofJson_object, fieldsOfJson_of_denotes fields]
    rfl
  | .first inner => by
    rw [ofJson_first]
    exact ofJson_of_denotes inner
  | .collection items => by
    rw [ofJson, mapM_of_denotes items]
    rfl

theorem fieldsOfJson_of_denotes {types : List FieldType} {members : List (String × Json)}
    {fields : List (String × Value)} :
    DenotesFields types members fields → fieldsOfJson types members = .ok fields
  | .nil _ => rfl
  | .found found value rest => by
    rw [fieldsOfJson, found, fieldsOfJson_of_denotes rest]
    simp only [ofJson_of_denotes value]
    rfl
  | .missing missing rest => by
    rw [fieldsOfJson, missing, fieldsOfJson_of_denotes rest]
    rfl

theorem mapM_of_denotes {element : DataType} {items : List Json} {values : List Value} :
    DenotesItems element items values → items.mapM (ofJson element) = .ok values
  | .nil _ => rfl
  | .cons item rest => by
    rw [List.mapM_cons, ofJson_of_denotes item, mapM_of_denotes rest]
    rfl

end

/-- Decoding finds exactly the values that a document denotes. -/
theorem ofJson_eq_ok_iff {type : DataType} {json : Json} {v : Value} :
    ofJson type json = .ok v ↔ Denotes type json v :=
  ⟨denotes_of_ofJson type, ofJson_of_denotes⟩

/-- Decoding yields values of the wanted type only, and what it yields is what the document denotes,
part by part. -/
theorem typed_of_ofJson {type : DataType} {json : Json} {v : Value}
    (decoded : ofJson type json = .ok v) : conforms type v = true ∧ Denotes type json v :=
  ⟨conforms_of_ofJson type decoded, ofJson_eq_ok_iff.1 decoded⟩

/-- An order in two arrays, with a repeated number, tags that are written in different ways, and no
day. -/
theorem typed_wrappedOrder :
    let tag := DataType.record [⟨"Name", .string, false⟩, ⟨"New", .bool, true⟩]
    let type := DataType.record
      [⟨"Id", .int16, false⟩, ⟨"Tags", .collection tag, false⟩, ⟨"Day", .date, true⟩]
    let tags := Json.array
      [.object [("New", .int 2), ("By", .float 0.5), ("Name", .string "late")],
        .array [.array [.object [("Name", .null)]], .bool true], .array [.array []]]
    let json := Json.array [.array [.object [("Tags", tags), ("Id", .null), ("Id", .int 70000)]]]
    let v := Value.record
      [("Id", .int 70000),
        ("Tags", .array [.record [("Name", .string "late"), ("New", .bool true)],
          .record [("Name", .null), ("New", .null)], .null]),
        ("Day", .null)]
    ofJson type json = .ok v ∧ conforms type v = true ∧ Denotes type json v := by
  intro tag type tags json v
  have decoded : ofJson type json = .ok v := rfl
  exact ⟨decoded, typed_of_ofJson decoded⟩

/-! ## Texts that denote their values -/

/-- The type of a value that is written as its text. -/
def textualType? : Value → Option DataType
  | .date _ => some .date
  | .timestamp _ => some .timestamp
  | .uuid _ => some .uuid
  | _ => none

theorem denotes_text {v : Value} {type : DataType} (textual : v.textualType? = some type) :
    Denotes type (.string v.text) v := by
  cases v with
  | date d =>
    cases textual
    exact .date d.ofString?_toString
  | timestamp t =>
    cases textual
    exact .timestamp t.ofString?_toString
  | uuid u =>
    cases textual
    exact .uuid u.ofString?_toString
  | _ => cases textual

/-- A row and a document hold such a value as the same text. -/
theorem coerce_string {v : Value} {type : DataType} (textual : v.textualType? = some type)
    (text : String) : (Value.string text).coerce type = ofJson type (.string text) := by
  cases v <;> cases textual <;> rfl

/-- The text of a day, a moment or an identifier is read back, from a row and from a document. -/
theorem read_text {v : Value} {type : DataType} (textual : v.textualType? = some type) :
    (Value.string v.text).coerce type = .ok v ∧ ofJson type (.string v.text) = .ok v := by
  have decoded : ofJson type (.string v.text) = .ok v := ofJson_eq_ok_iff.2 (denotes_text textual)
  exact ⟨(coerce_string textual v.text).trans decoded, decoded⟩

/-- A leap second before the common era, with a fraction of six digits. -/
theorem read_text_leapSecond :
    let v := Value.timestamp ⟨⟨-262143, 2, 28, by decide, by decide, by decide⟩,
      ⟨23, 59, 60, 1000, by decide, by decide, by decide, by decide⟩⟩
    v.textualType? = some .timestamp ∧ v.text = "-262143-02-28T23:59:60.000001" ∧
      (Value.string v.text).coerce .timestamp = .ok v ∧
      ofJson .timestamp (.string v.text) = .ok v := by
  intro v
  exact ⟨rfl, by decide +kernel, read_text rfl⟩

end Value

end SqlLowering
