import SqlLowering.Proofs.RecordComparisons

/-!
# Comparisons on the host are coherent

Without floating-point numbers, two values are equal exactly when they are the same value, and two
values of one kind are in the order of that kind, which is total: by size, by the alphabet, by time,
by digits or by bytes. Arrays and records have no order but can be equal, and values of different
kinds have none and are never equal. `Value.Ordered` says this with one rule for each kind, and the
laws of the operators follow from the laws of that relation.

Null is a value like others to the equality, and is before or after nothing, not even itself.
-/

namespace SqlLowering

open Std (TransCmp OrientedCmp)

/-! ## Orders of the kinds -/

/-- Things in the order of their keys. -/
theorem transCmp_of_key {α β : Type} (cmp : β → β → Ordering) [TransCmp cmp] (key : α → β) :
    TransCmp fun a b => cmp (key a) (key b) where
  eq_swap := OrientedCmp.eq_swap
  isLE_trans := TransCmp.isLE_trans

namespace Calendar

instance transCmp_date : TransCmp Date.compare :=
  inferInstanceAs (TransCmp (compareLex (compareOn Date.year)
    (compareLex (compareOn Date.month) (compareOn Date.day))))

instance transCmp_time : TransCmp Time.compare :=
  inferInstanceAs (TransCmp (compareLex (compareOn Time.hour) (compareLex (compareOn Time.minute)
    (compareLex (compareOn Time.second) (compareOn Time.nanosecond)))))

instance transCmp_timestamp : TransCmp Timestamp.compare :=
  have := transCmp_of_key Date.compare Timestamp.date
  have := transCmp_of_key Time.compare Timestamp.time
  inferInstanceAs (TransCmp (compareLex (fun a b : Timestamp => a.date.compare b.date)
    (fun a b : Timestamp => a.time.compare b.time)))

end Calendar

instance Uuid.transCmp_compare : TransCmp Uuid.compare :=
  have := transCmp_of_key (Ord.compare : Nat → Nat → Ordering) (Fin.val : Fin 16 → Nat)
  transCmp_of_key (List.compareLex fun x y : Fin 16 => Ord.compare x.val y.val) Uuid.digits

namespace Value

/-! ## Values without floating-point numbers -/

mutual

/-- Whether there is no floating-point number in a value. -/
def isFloatFree : Value → Bool
  | .float _ => false
  | .array items => areFloatFree items
  | .record fields => areFieldsFloatFree fields
  | _ => true

/-- Whether there is no floating-point number in some values. -/
def areFloatFree : List Value → Bool
  | [] => true
  | item :: rest => item.isFloatFree && areFloatFree rest

/-- Whether there is no floating-point number in some fields. -/
def areFieldsFloatFree : List (String × Value) → Bool
  | [] => true
  | (_, value) :: rest => value.isFloatFree && areFieldsFloatFree rest

end

theorem kind_ne_float {a : Value} (free : a.isFloatFree = true) : a.kind ≠ .float := by
  cases a with
  | float _ => cases free
  | _ => simp [kind]

mutual

/-- Only floating-point numbers can be the same without being equal, or equal without being the
same. -/
theorem same_iff_eq : ∀ (a b : Value), a.isFloatFree = true → (a.same b = true ↔ a = b)
  | .float _, _, free => by cases free
  | .array items, b, free => by
    cases b with
    | array others => simp [same, sameItems_iff_eq items others free]
    | _ => simp [same]
  | .record fields, b, free => by
    cases b with
    | record others => simp [same, sameFields_iff_eq fields others free]
    | _ => simp [same]
  | .null, b, _ | .bool _, b, _ | .int _, b, _ | .string _, b, _ | .bytes _, b, _ | .date _, b, _
  | .timestamp _, b, _ | .uuid _, b, _ => by cases b <;> simp [same]

theorem sameItems_iff_eq : ∀ (items others : List Value), areFloatFree items = true →
    (sameItems items others = true ↔ items = others)
  | [], others, _ => by cases others <;> simp [sameItems]
  | item :: rest, others, free => by
    rw [areFloatFree, Bool.and_eq_true] at free
    cases others with
    | nil => simp [sameItems]
    | cons other others =>
      simp [sameItems, same_iff_eq item other free.1, sameItems_iff_eq rest others free.2]

theorem sameFields_iff_eq : ∀ (fields others : List (String × Value)),
    areFieldsFloatFree fields = true → (sameFields fields others = true ↔ fields = others)
  | [], others, _ => by cases others <;> simp [sameFields]
  | (name, value) :: rest, others, free => by
    rw [areFieldsFloatFree, Bool.and_eq_true] at free
    cases others with
    | nil => simp [sameFields]
    | cons other others =>
      simp [sameFields, same_iff_eq value other.2 free.1, sameFields_iff_eq rest others free.2,
        Prod.ext_iff]

end

/-! ## The order of two values -/

/-- The order of two values: equal ones are equal, and the kinds of scalars are ordered each by
itself. -/
inductive Ordered : Value → Value → Ordering → Prop
  | refl (a : Value) : Ordered a a .eq
  | bool {a b : Bool} {order : Ordering} :
      compare a b = order → Ordered (.bool a) (.bool b) order
  | int {a b : Int64} {order : Ordering} :
      compare a b = order → Ordered (.int a) (.int b) order
  | string {a b : String} {order : Ordering} :
      compare a b = order → Ordered (.string a) (.string b) order
  | bytes {a b : List UInt8} {order : Ordering} :
      List.compareLex (fun x y => compare x y) a b = order → Ordered (.bytes a) (.bytes b) order
  | date {a b : Calendar.Date} {order : Ordering} :
      a.compare b = order → Ordered (.date a) (.date b) order
  | timestamp {a b : Calendar.Timestamp} {order : Ordering} :
      a.compare b = order → Ordered (.timestamp a) (.timestamp b) order
  | uuid {a b : Uuid} {order : Ordering} :
      a.compare b = order → Ordered (.uuid a) (.uuid b) order

variable {a b c : Value} {order : Ordering}

theorem swap_of_compare {α : Type} {cmp : α → α → Ordering} [OrientedCmp cmp] {x y : α}
    (compared : cmp x y = order) : cmp y x = order.swap := by
  rw [← compared]
  exact OrientedCmp.eq_swap

theorem Ordered.swap (ordered : Ordered a b order) : Ordered b a order.swap := by
  cases ordered with
  | refl => exact .refl a
  | bool compared => exact .bool (swap_of_compare compared)
  | int compared => exact .int (swap_of_compare compared)
  | string compared => exact .string (swap_of_compare compared)
  | bytes compared => exact .bytes (swap_of_compare compared)
  | date compared => exact .date (swap_of_compare compared)
  | timestamp compared => exact .timestamp (swap_of_compare compared)
  | uuid compared => exact .uuid (swap_of_compare compared)

theorem Ordered.lt_trans (first : Ordered a b .lt) (second : Ordered b c .lt) :
    Ordered a c .lt := by
  -- Two rules for one value in the middle are of one kind, and neither is that of equal values.
  cases first with
  | bool ab => cases second with | bool bc => exact .bool (TransCmp.lt_trans ab bc)
  | int ab => cases second with | int bc => exact .int (TransCmp.lt_trans ab bc)
  | string ab => cases second with | string bc => exact .string (TransCmp.lt_trans ab bc)
  | bytes ab => cases second with | bytes bc => exact .bytes (TransCmp.lt_trans ab bc)
  | date ab => cases second with | date bc => exact .date (TransCmp.lt_trans ab bc)
  | timestamp ab =>
    cases second with | timestamp bc => exact .timestamp (TransCmp.lt_trans ab bc)
  | uuid ab => cases second with | uuid bc => exact .uuid (TransCmp.lt_trans ab bc)

/-- Whether two values have no order: they are of different kinds, or different arrays, or different
records. -/
def Unordered (a b : Value) : Prop :=
  a.kind ≠ b.kind ∨ (a.kind = .array ∧ b.kind = .array ∨ a.kind = .record ∧ b.kind = .record) ∧
    a ≠ b

theorem Unordered.symm (unordered : Unordered a b) : Unordered b a := by
  rcases unordered with different | ⟨containers, unequal⟩
  · exact .inl different.symm
  · exact .inr ⟨containers.imp And.symm And.symm, unequal.symm⟩

theorem compare?_self (free : a.isFloatFree = true) : a.compare? a = some .eq := by
  have plain := kind_ne_float free
  have same : (a.compare? a == some .eq) = true := by
    rw [compare?_eq_same plain plain]
    exact (same_iff_eq a a free).2 rfl
  exact beq_iff_eq.1 same

/-- Two arrays, or two records, are compared part by part. -/
theorem compare?_of_containers
    (containers : a.kind = .array ∧ b.kind = .array ∨ a.kind = .record ∧ b.kind = .record) :
    a.compare? b = if a.same b then some .eq else none := by
  revert containers
  cases a <;> cases b <;> simp [kind, compare?, float?]

/-- Two values of one kind of scalars are ordered. -/
theorem exists_compare?_of_scalars (alike : a.kind = b.kind) (plain : a.kind ≠ .float)
    (notArrays : a.kind ≠ .array) (notRecords : a.kind ≠ .record) :
    ∃ order, a.compare? b = some order ∧ Ordered a b order := by
  cases a <;> cases b <;> simp only [kind, reduceCtorEq] at alike
  case null.null => exact ⟨_, rfl, .refl _⟩
  case bool.bool => exact ⟨_, rfl, .bool rfl⟩
  case int.int => exact ⟨_, rfl, .int rfl⟩
  case float.float => exact absurd rfl plain
  case string.string => exact ⟨_, rfl, .string rfl⟩
  case bytes.bytes => exact ⟨_, rfl, .bytes rfl⟩
  case date.date => exact ⟨_, rfl, .date rfl⟩
  case timestamp.timestamp => exact ⟨_, rfl, .timestamp rfl⟩
  case uuid.uuid => exact ⟨_, rfl, .uuid rfl⟩
  case array.array => exact absurd rfl notArrays
  case record.record => exact absurd rfl notRecords

/-- Two values either have no order, or have the one of their kind. -/
theorem compare?_cases (free : a.isFloatFree = true) (free' : b.isFloatFree = true) :
    (Unordered a b ∧ a.compare? b = none) ∨
      (¬ Unordered a b ∧ ∃ order, a.compare? b = some order ∧ Ordered a b order) := by
  by_cases alike : a.kind = b.kind
  · by_cases containers : a.kind = .array ∧ b.kind = .array ∨ a.kind = .record ∧ b.kind = .record
    · -- Arrays and records are equal or nothing.
      rw [compare?_of_containers containers]
      by_cases equal : a = b
      · refine .inr ⟨fun unordered => unordered.elim (absurd alike) fun h => h.2 equal, .eq, ?_⟩
        rw [(same_iff_eq a b free).2 equal, equal]
        exact ⟨rfl, .refl b⟩
      · refine .inl ⟨.inr ⟨containers, equal⟩, if_neg ?_⟩
        exact fun same => equal ((same_iff_eq a b free).1 same)
    · refine .inr ⟨fun unordered => unordered.elim (absurd alike) fun h => containers h.1, ?_⟩
      have notArrays : a.kind ≠ .array := fun array => containers (.inl ⟨array, alike ▸ array⟩)
      have notRecords : a.kind ≠ .record := fun record => containers (.inr ⟨record, alike ▸ record⟩)
      exact exists_compare?_of_scalars alike (kind_ne_float free) notArrays notRecords
  · exact .inl ⟨.inl alike,
      compare?_eq_none_of_kind_ne alike (kind_ne_float free) (kind_ne_float free')⟩

theorem compare?_eq_none_iff (free : a.isFloatFree = true) (free' : b.isFloatFree = true) :
    a.compare? b = none ↔ Unordered a b := by
  rcases compare?_cases free free' with ⟨unordered, noOrder⟩ | ⟨ordered, order, compared, -⟩
  · exact iff_of_true noOrder unordered
  · exact iff_of_false (by simp [compared]) ordered

/-- Without floating-point numbers, values compare as their order says, and not at all where it says
nothing. -/
theorem compare?_eq_some_iff (free : a.isFloatFree = true) (free' : b.isFloatFree = true) :
    a.compare? b = some order ↔ Ordered a b order := by
  constructor
  · intro compared
    rcases compare?_cases free free' with ⟨-, noOrder⟩ | ⟨-, found, same, ordered⟩
    · rw [noOrder] at compared
      cases compared
    · rw [same] at compared
      cases compared
      exact ordered
  · intro ordered
    cases ordered with
    | refl => exact compare?_self free
    | bool compared | int compared | string compared | bytes compared | date compared
    | timestamp compared | uuid compared => exact congrArg some compared

theorem compare?_eq_iff (free : a.isFloatFree = true) (free' : b.isFloatFree = true) :
    a.compare? b = some .eq ↔ a = b := by
  rw [← same_iff_eq a b free, ← compare?_eq_same (kind_ne_float free) (kind_ne_float free'),
    beq_iff_eq]

theorem compare?_swap (free : a.isFloatFree = true) (free' : b.isFloatFree = true) :
    b.compare? a = (a.compare? b).map Ordering.swap := by
  rcases compare?_cases free free' with ⟨unordered, noOrder⟩ | ⟨-, order, compared, ordered⟩
  · rw [noOrder, (compare?_eq_none_iff free' free).2 unordered.symm]
    rfl
  · rw [compared, (compare?_eq_some_iff free' free).2 ordered.swap]
    rfl

end Value

/-! ## Operators -/

namespace BinaryOp

open Value (Unordered)

/-- Whether an operator asks for the order of its operands. -/
def isOrdering : BinaryOp → Bool
  | .greaterThan | .greaterThanOrEqual | .lessThan | .lessThanOrEqual => true
  | _ => false

/-- What the operators of comparison answer to three values. -/
structure CoherentComparisons (outcome : BinaryOp → Value → Value → Except EvalError Value)
    (a b c : Value) : Prop where
  equal : outcome .equal a b = .ok (.bool true) ↔ a = b
  equal_refl : outcome .equal a a = .ok (.bool true)
  equal_symm : outcome .equal a b = outcome .equal b a
  equal_trans : outcome .equal a b = .ok (.bool true) → outcome .equal b c = .ok (.bool true) →
    outcome .equal a c = .ok (.bool true)
  notEqual : ∃ same : Bool,
    outcome .equal a b = .ok (.bool same) ∧ outcome .notEqual a b = .ok (.bool !same)
  /-- Null has no place in an order. -/
  null : a = .null ∨ b = .null → ∀ op, isOrdering op = true → outcome op a b = .ok (.bool false)
  /-- The operators of order fail together, -/
  unordered : a ≠ .null → b ≠ .null → ∀ op, isOrdering op = true →
    (outcome op a b = .error (.binaryMismatch op a.kind b.kind) ↔ Unordered a b)
  /-- and answer together. -/
  ordered : a ≠ .null → b ≠ .null → ∀ op, isOrdering op = true →
    ((∃ holds : Bool, outcome op a b = .ok (.bool holds)) ↔ ¬ Unordered a b)
  greaterThan : ∀ holds : Bool,
    outcome .greaterThan a b = .ok (.bool holds) ↔ outcome .lessThan b a = .ok (.bool holds)
  greaterThanOrEqual : a ≠ .null → b ≠ .null → ∀ holds : Bool,
    outcome .greaterThanOrEqual a b = .ok (.bool holds) ↔
      outcome .lessThan a b = .ok (.bool !holds)
  lessThanOrEqual : a ≠ .null → b ≠ .null → ∀ holds : Bool,
    outcome .lessThanOrEqual a b = .ok (.bool holds) ↔
      outcome .greaterThan a b = .ok (.bool !holds)
  equal_iff : a ≠ .null → b ≠ .null →
    (outcome .equal a b = .ok (.bool true) ↔
      outcome .greaterThanOrEqual a b = .ok (.bool true) ∧
        outcome .lessThanOrEqual a b = .ok (.bool true))
  lessThan_trans : outcome .lessThan a b = .ok (.bool true) →
    outcome .lessThan b c = .ok (.bool true) → outcome .lessThan a c = .ok (.bool true)

variable {op : BinaryOp} {a b c : Value} {order : Ordering}

theorem onValues_equal (a b : Value) :
    BinaryOp.equal.onValues a b = .ok (.bool (a.compare? b == some .eq)) :=
  rfl

theorem onValues_notEqual (a b : Value) :
    BinaryOp.notEqual.onValues a b = .ok (.bool !(a.compare? b == some .eq)) :=
  rfl

theorem onValues_equal_iff (free : a.isFloatFree = true) (free' : b.isFloatFree = true) :
    BinaryOp.equal.onValues a b = .ok (.bool true) ↔ a = b := by
  rw [onValues_equal, Except.ok.injEq, Value.bool.injEq, beq_iff_eq,
    Value.compare?_eq_iff free free']

/-- An operator of order looks at both operands. -/
theorem onValues_of_isOrdering (orders : op.isOrdering = true) (a b : Value) :
    op.onValues a b = op.strict a b := by
  refine onValues_of_undecided ?_ b
  cases op <;> simp_all [isOrdering, decided?]

theorem onValues_of_null (orders : op.isOrdering = true) (missing : a = .null ∨ b = .null) :
    op.onValues a b = .ok (.bool false) := by
  have found : (a.isNull || b.isNull) = true := by
    rcases missing with rfl | rfl
    · rfl
    · exact Bool.or_true _
  rw [onValues_of_isOrdering orders]
  cases op <;> simp_all [isOrdering, strict]

theorem isNull_or_eq_false (present : a ≠ .null) (present' : b ≠ .null) :
    (a.isNull || b.isNull) = false := by
  have isNull {v : Value} (present : v ≠ .null) : v.isNull = false := by
    cases v with
    | null => exact absurd rfl present
    | _ => rfl
  rw [isNull present, isNull present']
  rfl

theorem onValues_of_none (orders : op.isOrdering = true) (present : a ≠ .null)
    (present' : b ≠ .null) (compared : a.compare? b = none) :
    op.onValues a b = .error (.binaryMismatch op a.kind b.kind) := by
  have found := isNull_or_eq_false present present'
  rw [onValues_of_isOrdering orders]
  cases op <;> simp_all [isOrdering, strict]

theorem onValues_of_some (orders : op.isOrdering = true) (present : a ≠ .null)
    (present' : b ≠ .null) (compared : a.compare? b = some order) :
    op.onValues a b = .ok (.bool (op.holdsFor order)) := by
  have found := isNull_or_eq_false present present'
  rw [onValues_of_isOrdering orders]
  cases op <;> simp_all [isOrdering, strict]

/-- The operators of order all fail, or all answer by one and the same order. -/
theorem onValues_cases (free : a.isFloatFree = true) (free' : b.isFloatFree = true)
    (present : a ≠ .null) (present' : b ≠ .null) :
    (Unordered a b ∧ a.compare? b = none ∧ ∀ op : BinaryOp, op.isOrdering = true →
        op.onValues a b = .error (.binaryMismatch op a.kind b.kind)) ∨
      (¬ Unordered a b ∧ ∃ order, a.compare? b = some order ∧ ∀ op : BinaryOp,
        op.isOrdering = true → op.onValues a b = .ok (.bool (op.holdsFor order))) := by
  rcases Value.compare?_cases free free' with ⟨unordered, noOrder⟩ | ⟨ordered, order, compared, -⟩
  · refine .inl ⟨unordered, noOrder, fun op orders => ?_⟩
    exact onValues_of_none orders present present' noOrder
  · refine .inr ⟨ordered, order, compared, fun op orders => ?_⟩
    exact onValues_of_some orders present present' compared

/-- Two operators of which one holds for the orders that the other does not hold for. -/
theorem onValues_negation {opposite : BinaryOp} (free : a.isFloatFree = true)
    (free' : b.isFloatFree = true) (present : a ≠ .null) (present' : b ≠ .null)
    (orders : op.isOrdering = true) (orders' : opposite.isOrdering = true)
    (negates : ∀ order, op.holdsFor order = !opposite.holdsFor order) (holds : Bool) :
    op.onValues a b = .ok (.bool holds) ↔ opposite.onValues a b = .ok (.bool !holds) := by
  rcases onValues_cases free free' present present' with ⟨-, -, failed⟩ | ⟨-, order, -, answered⟩
  · rw [failed op orders, failed opposite orders']
    exact iff_of_false (by simp) (by simp)
  · rw [answered op orders, answered opposite orders', negates order]
    cases opposite.holdsFor order <;> cases holds <;> simp

/-- Both sides of a comparison can be exchanged. -/
theorem onValues_greaterThan_iff (free : a.isFloatFree = true) (free' : b.isFloatFree = true)
    (holds : Bool) :
    BinaryOp.greaterThan.onValues a b = .ok (.bool holds) ↔
      BinaryOp.lessThan.onValues b a = .ok (.bool holds) := by
  by_cases missing : a = .null ∨ b = .null
  · rw [onValues_of_null rfl missing, onValues_of_null rfl missing.symm]
  · obtain ⟨present, present'⟩ := not_or.1 missing
    have swapped := Value.compare?_swap free free'
    rcases onValues_cases free free' present present' with ⟨-, noOrder, failed⟩ |
      ⟨-, order, compared, answered⟩
    · rw [noOrder] at swapped
      rw [failed .greaterThan rfl, onValues_of_none rfl present' present swapped]
      exact iff_of_false (by simp) (by simp)
    · rw [compared] at swapped
      rw [answered .greaterThan rfl, onValues_of_some rfl present' present swapped]
      cases order <;> exact Iff.rfl

theorem onValues_lessThan_iff (free : a.isFloatFree = true) (free' : b.isFloatFree = true) :
    BinaryOp.lessThan.onValues a b = .ok (.bool true) ↔ Value.Ordered a b .lt := by
  by_cases missing : a = .null ∨ b = .null
  · rw [onValues_of_null rfl missing]
    refine iff_of_false (by simp) fun rule => ?_
    rcases missing with rfl | rfl <;> cases rule
  · obtain ⟨present, present'⟩ := not_or.1 missing
    rw [← Value.compare?_eq_some_iff free free']
    rcases onValues_cases free free' present present' with ⟨-, noOrder, failed⟩ |
      ⟨-, order, compared, answered⟩
    · rw [failed .lessThan rfl, noOrder]
      exact iff_of_false (by simp) (by simp)
    · rw [answered .lessThan rfl, compared]
      cases order <;> simp [holdsFor]

/-- What is neither before nor after is equal. -/
theorem onValues_equal_iff_both (free : a.isFloatFree = true) (free' : b.isFloatFree = true)
    (present : a ≠ .null) (present' : b ≠ .null) :
    BinaryOp.equal.onValues a b = .ok (.bool true) ↔
      BinaryOp.greaterThanOrEqual.onValues a b = .ok (.bool true) ∧
        BinaryOp.lessThanOrEqual.onValues a b = .ok (.bool true) := by
  rw [onValues_equal]
  rcases onValues_cases free free' present present' with ⟨-, noOrder, failed⟩ |
    ⟨-, order, compared, answered⟩
  · rw [noOrder, failed .greaterThanOrEqual rfl]
    exact iff_of_false (by simp) (by simp)
  · rw [compared, answered .greaterThanOrEqual rfl, answered .lessThanOrEqual rfl]
    cases order <;> simp [holdsFor]

/-- Comparisons of values without floating-point numbers are coherent: equality is an equivalence,
and the operators of order answer by one total order of each kind, or fail together. The answers do
not depend on the errors that an operator is used among. -/
theorem onValues_coherent (free : a.isFloatFree = true) (free' : b.isFloatFree = true)
    (free'' : c.isFloatFree = true) :
    (∀ {ε : Type} (lift : EvalError → ε) (op : BinaryOp),
        op.apply lift a (fun _ => .ok b) = (op.onValues a b).mapError lift) ∧
      CoherentComparisons onValues a b c := by
  refine ⟨fun lift op => apply_values lift op a b, ?_⟩
  constructor
  case equal => exact onValues_equal_iff free free'
  case equal_refl => exact (onValues_equal_iff free free).2 rfl
  case equal_symm =>
    rw [onValues_equal, onValues_equal, Value.compare?_swap free free']
    cases a.compare? b with
    | none => rfl
    | some order => cases order <;> rfl
  case equal_trans =>
    rw [onValues_equal_iff free free', onValues_equal_iff free' free'',
      onValues_equal_iff free free'']
    exact Eq.trans
  case notEqual => exact ⟨_, onValues_equal a b, onValues_notEqual a b⟩
  case null => exact fun missing op orders => onValues_of_null orders missing
  case unordered =>
    intro present present' op orders
    rcases onValues_cases free free' present present' with ⟨unordered, -, failed⟩ |
      ⟨ordered, order, -, answered⟩
    · exact iff_of_true (failed op orders) unordered
    · rw [answered op orders]
      exact iff_of_false (by simp) ordered
  case ordered =>
    intro present present' op orders
    rcases onValues_cases free free' present present' with ⟨unordered, -, failed⟩ |
      ⟨ordered, order, -, answered⟩
    · rw [failed op orders]
      exact iff_of_false (by simp) (not_not_intro unordered)
    · exact iff_of_true ⟨_, answered op orders⟩ ordered
  case greaterThan => exact onValues_greaterThan_iff free free'
  case greaterThanOrEqual =>
    intro present present' holds
    refine onValues_negation free free' present present' rfl rfl (fun order => ?_) holds
    cases order <;> rfl
  case lessThanOrEqual =>
    intro present present' holds
    refine onValues_negation free free' present present' rfl rfl (fun order => ?_) holds
    cases order <;> rfl
  case equal_iff => exact onValues_equal_iff_both free free'
  case lessThan_trans =>
    rw [onValues_lessThan_iff free free', onValues_lessThan_iff free' free'',
      onValues_lessThan_iff free free'']
    exact Value.Ordered.lt_trans

/-- The last moment of a second, the leap second behind it and the start of the next day. -/
theorem onValues_leapSecond :
    let last := Value.timestamp ⟨⟨2016, 12, 31, by decide, by decide, by decide⟩,
      ⟨23, 59, 59, 999999999, by decide, by decide, by decide, by decide⟩⟩
    let leap := Value.timestamp ⟨⟨2016, 12, 31, by decide, by decide, by decide⟩,
      ⟨23, 59, 60, 0, by decide, by decide, by decide, by decide⟩⟩
    let next := Value.timestamp ⟨⟨2017, 1, 1, by decide, by decide, by decide⟩,
      ⟨0, 0, 0, 0, by decide, by decide, by decide, by decide⟩⟩
    (last.isFloatFree = true ∧ leap.isFloatFree = true ∧ next.isFloatFree = true) ∧
      CoherentComparisons onValues last leap next ∧
      BinaryOp.lessThan.onValues last leap = .ok (.bool true) ∧
      BinaryOp.lessThan.onValues leap next = .ok (.bool true) ∧
      BinaryOp.lessThan.onValues last next = .ok (.bool true) := by
  intro last leap next
  obtain ⟨-, coherent⟩ : _ ∧ CoherentComparisons onValues last leap next :=
    onValues_coherent rfl rfl rfl
  have first : BinaryOp.lessThan.onValues last leap = .ok (.bool true) := rfl
  have second : BinaryOp.lessThan.onValues leap next = .ok (.bool true) := rfl
  exact ⟨⟨rfl, rfl, rfl⟩, coherent, first, second, coherent.lessThan_trans first second⟩

end BinaryOp

end SqlLowering
