import SqlLowering.CommandLine.Run
import SqlLowering.Proofs.TypedDecoding

/-!
# Rows of plain values

A row from a file holds values as they stand in a document, with no mark of their kinds, and a
column is converted to its type when it is read. A document that is decoded at the type right away
gives the same value, except for bytes. They are written as an array of numbers, which stands as an
array in the row, and no array is converted to bytes: a column of bytes can only be read from a file
if it is null (`Value.plain_bytes_refused`).
-/

namespace SqlLowering

namespace Value

/-! ## Single values -/

theorem plain_toInt (i : Int64) : plain (.int i.toInt) = .int i := by
  rw [plain, int64?_toInt]

/-- A number is converted to the floating-point number that it denotes, whether it has been kept as
an integer or not. -/
theorem coerce_plain_of_float? {type : DataType} {json : Json} {x : Float}
    (real : type = .float32 ∨ type = .float64) (read : json.float? = some x) :
    (plain json).coerce type = .ok (.float x) := by
  cases json with
  | float y =>
    cases read
    rcases real with rfl | rfl <;> rfl
  | int n =>
    cases read
    cases found : (Json.int n).int64? with
    | some i =>
      obtain rfl : n = i.toInt := Json.int.inj (Json.int64?_eq_some_iff.1 found)
      rw [plain_toInt]
      rcases real with rfl | rfl <;> rfl
    | none =>
      have widened : plain (.int n) = .float (Binary64.ofInt n) := by rw [plain, found]
      rw [widened]
      rcases real with rfl | rfl <;> rfl
  | _ => cases read

/-- What a document denotes at a scalar type is what the plain value is converted to, unless it is
bytes. -/
theorem coerce_plain_of_denotes {type : DataType} {json : Json} {v : Value}
    (scalar : type.isScalar = true) (denotes : Denotes type json v) :
    (plain json).coerce type =
      if v.kind = .bytes then .error (.typeMismatch .blob Kind.array.name) else .ok v := by
  cases denotes with
  | null type => cases type <;> rfl
  | bool b => rfl
  | truth i =>
    rw [plain_toInt]
    rfl
  | int i integer =>
    rw [plain_toInt]
    rcases integer with rfl | rfl | rfl <;> rfl
  | float json real read => exact coerce_plain_of_float? real read
  | string s => rfl
  | blob content => rfl
  | date read =>
    rw [plain, coerce, readDate, read]
    rfl
  | timestamp read =>
    rw [plain, coerce, readTimestamp, read]
    rfl
  | uuid read =>
    rw [plain, coerce, readUuid, read]
    rfl
  | record _ | first _ | nothing _ | collection _ => cases scalar

/-- Bytes are what arrays denote where bytes are wanted. -/
theorem kind_eq_bytes_iff_of_denotes {type : DataType} {json : Json} {v : Value}
    (scalar : type.isScalar = true) (denotes : Denotes type json v) :
    v.kind = .bytes ↔ type = .blob ∧ json ≠ .null := by
  cases denotes with
  | null type => simp [kind]
  | int i integer => rcases integer with rfl | rfl | rfl <;> simp [kind]
  | float json real read => rcases real with rfl | rfl <;> simp [kind]
  | record _ | first _ | nothing _ | collection _ => cases scalar
  | _ => simp [kind]

end Value

/-! ## Rows -/

namespace CommandLine

/-- The columns of a row from a file are the plain values of the items of the document. -/
theorem read_of_rowOfPlain? {items : List Json} {row : Row}
    (rowed : rowOfPlain? (.array items) = some row) {ordinal : Nat} {json : Json}
    (there : items[ordinal]? = some json) (type : DataType) :
    row.read ordinal type = ((Value.plain json).coerce type).mapError (.column ordinal) := by
  cases rowed
  rw [Row.read, List.getElem?_map, there]
  rfl

/-- A column of a scalar type is read from a file as its document is decoded at the type, unless
that gives bytes. Where bytes are wanted, anything but null is refused. -/
theorem read_plain_of_ofJson {type : DataType} (scalar : type.isScalar = true) {json : Json}
    {v : Value} (decoded : Value.ofJson type json = .ok v) :
    ((Value.plain json).coerce type =
      if v.kind = .bytes then .error (.typeMismatch .blob Kind.array.name) else .ok v) ∧
    (v.kind = .bytes ↔ type = .blob ∧ json ≠ .null) ∧
    ∀ (items : List Json) (ordinal : Nat), items[ordinal]? = some json →
      ∃ row, rowOfPlain? (.array items) = some row ∧
        row.read ordinal type =
          if v.kind = .bytes then .error (.column ordinal (.typeMismatch .blob Kind.array.name))
          else .ok v := by
  have denotes := Value.ofJson_eq_ok_iff.1 decoded
  have converted := Value.coerce_plain_of_denotes scalar denotes
  refine ⟨converted, Value.kind_eq_bytes_iff_of_denotes scalar denotes, ?_⟩
  intro items ordinal there
  refine ⟨items.map Value.plain, rfl, ?_⟩
  rw [read_of_rowOfPlain? rfl there, converted]
  split
  · rfl
  · rfl

/-- A number that is no integer of 64 bits with sign, behind a null. -/
theorem read_plain_wideNumber :
    let wide := Json.int 9223372036854775809
    let x := Binary64.ofInt 9223372036854775809
    Value.ofJson .float32 wide = .ok (.float x) ∧ wide.int64? = none ∧
      ∃ row, rowOfPlain? (.array [.null, wide]) = some row ∧
        row.read 1 .float32 = .ok (.float x) := by
  intro wide x
  have decoded : Value.ofJson .float32 wide = .ok (.float x) := rfl
  obtain ⟨-, -, read⟩ := read_plain_of_ofJson rfl decoded
  exact ⟨decoded, rfl, read [.null, wide] 1 rfl⟩

end CommandLine

/-- Two bytes are decoded where bytes are wanted, and refused in a row. -/
theorem Value.plain_bytes_refused :
    let json := Json.array [.int 1, .int 255]
    Value.ofJson .blob json = .ok (.bytes [1, 255]) ∧ DataType.blob.isScalar = true ∧
      (Value.plain json).coerce .blob = .error (.typeMismatch .blob "array") ∧
      ∃ row, CommandLine.rowOfPlain? (.array [json]) = some row ∧
        row.read 0 .blob = .error (.column 0 (.typeMismatch .blob "array")) :=
  ⟨rfl, rfl, rfl, _, rfl, rfl⟩

end SqlLowering
