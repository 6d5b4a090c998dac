import Mathlib.Algebra.Order.Ring.Int
import SqlLowering.Proofs.Outcome

/-!
# Integer arithmetic on the host is exact or refused

Sums, differences, products and powers of integers of 64 bits are those of the integers, where they
have 64 bits, and are refused otherwise. Quotients are rounded toward zero, with a remainder that
takes the sign of the dividend. There is one quotient of two integers of 64 bits that does not have
64 bits itself, that of the least one by minus one; the remainder is refused with it, though it
would be zero.

Powers are decided without computing them where they cannot have 64 bits, and by the parity of the
exponent where they are zero or one in size; `power64?_eq` says that both shortcuts are exact.
-/

namespace SqlLowering

/-! ## Integers of 64 bits -/

/-- Whether an integer has 64 bits with sign. -/
def HasInt64 (i : Int) : Prop :=
  -9223372036854775808 ≤ i ∧ i ≤ 9223372036854775807

theorem hasInt64_toInt (c : Int64) : HasInt64 c.toInt :=
  ⟨Int64.minValue_le_toInt c, Int64.toInt_le c⟩

theorem exists_toInt_iff {i : Int} : (∃ c : Int64, c.toInt = i) ↔ HasInt64 i := by
  constructor
  · rintro ⟨c, rfl⟩
    exact hasInt64_toInt c
  · rintro ⟨least, greatest⟩
    exact ⟨Int64.ofInt i, Int64.toInt_ofInt_of_le (by omega) (by omega)⟩

theorem int64Of?_toInt (c : Int64) : int64Of? c.toInt = some c := by
  rw [int64Of?, if_pos ⟨Int64.minValue_le_toInt c, Int64.toInt_le c⟩, Int64.ofInt_toInt]

theorem int64Of?_eq_none_iff {i : Int} : int64Of? i = none ↔ ¬ HasInt64 i := by
  unfold int64Of?
  split
  · next range => exact iff_of_false (Option.some_ne_none _) (not_not_intro range)
  · next outside => exact iff_of_true rfl outside

theorem int64Of?_eq_some_iff {i : Int} {c : Int64} : int64Of? i = some c ↔ c.toInt = i := by
  constructor
  · intro found
    have range : HasInt64 i := by
      by_contra outside
      rw [int64Of?_eq_none_iff.2 outside] at found
      cases found
    obtain ⟨d, rfl⟩ := exists_toInt_iff.2 range
    rw [int64Of?_toInt] at found
    cases found
    rfl
  · rintro rfl
    exact int64Of?_toInt c

/-! ## Powers -/

/-- Of the exponent of a number that is zero or one in size, only the parity counts, and whether it
is zero. -/
theorem pow_parity {base : Int} (small : base.natAbs ≤ 1) (exponent : Nat) :
    base ^ (if exponent = 0 then 0 else 2 - exponent % 2) = base ^ exponent := by
  split
  · next zero => rw [zero]
  · next positive =>
    have values : base = 0 ∨ base = 1 ∨ base = -1 := by omega
    rcases values with rfl | rfl | rfl
    · rw [zero_pow (by omega), zero_pow positive]
    · rw [one_pow, one_pow]
    · -- Two less the parity has the same parity, and is not zero.
      rw [neg_one_pow_eq_pow_mod_two, neg_one_pow_eq_pow_mod_two exponent]
      congr 1
      omega

/-- A power of a larger number outgrows 64 bits. -/
theorem not_hasInt64_pow {base : Int} (large : 1 < base.natAbs) {exponent : Nat}
    (huge : 64 ≤ exponent) : ¬ HasInt64 (base ^ exponent) := by
  have size : 18446744073709551616 ≤ (base ^ exponent).natAbs :=
    calc 18446744073709551616 = 2 ^ 64 := by decide
      _ ≤ 2 ^ exponent := Nat.pow_le_pow_right (by decide) huge
      _ ≤ base.natAbs ^ exponent := Nat.pow_le_pow_left large exponent
      _ = (base ^ exponent).natAbs := (Int.natAbs_pow base exponent).symm
  rintro ⟨least, greatest⟩
  omega

theorem power64?_eq (base : Int) (exponent : Nat) :
    power64? base exponent = int64Of? (base ^ exponent) := by
  unfold power64?
  split
  · next small => exact congrArg int64Of? (pow_parity small exponent)
  · next large =>
    split
    · next huge => exact (int64Of?_eq_none_iff.2 (not_hasInt64_pow (by omega) huge)).symm
    · rfl

/-! ## Quotients and remainders -/

/-- Minus one turns the least integer of 64 bits around, out of range. All other divisors keep it in
range: one leaves the dividend as it is, and the others at least halve it. -/
theorem hasInt64_tdiv {a b : Int64} (divisor : b.toInt ≠ 0)
    (others : ¬ (a = Int64.minValue ∧ b = -1)) : HasInt64 (a.toInt.tdiv b.toInt) := by
  have range := hasInt64_toInt a
  unfold HasInt64 at range ⊢
  by_cases minus : b.toInt = -1
  · have same : b = -1 := Int64.toInt_inj.1 minus
    have aboveLeast : a.toInt ≠ -9223372036854775808 := fun least =>
      others ⟨Int64.toInt_inj.1 least, same⟩
    rw [minus, Int.tdiv_neg, Int.tdiv_one]
    omega
  · by_cases one : b.toInt = 1
    · rw [one, Int.tdiv_one]
      exact range
    · have half : (a.toInt.tdiv b.toInt).natAbs ≤ a.toInt.natAbs / 2 := by
        rw [Int.natAbs_tdiv]
        exact Nat.div_le_div_left (by omega) (by decide)
      omega

theorem natAbs_tmod_lt {a b : Int} (divisor : b ≠ 0) : (a.tmod b).natAbs < b.natAbs := by
  rw [Int.natAbs_tmod]
  exact Nat.mod_lt _ (Int.natAbs_pos.2 divisor)

/-- A remainder is smaller than the divisor, so it cannot leave the range, not even that of the
least integer by minus one. -/
theorem hasInt64_tmod (a : Int) {b : Int64} (divisor : b.toInt ≠ 0) :
    HasInt64 (a.tmod b.toInt) := by
  have range := hasInt64_toInt b
  have smaller : (a.tmod b.toInt).natAbs < b.toInt.natAbs := natAbs_tmod_lt divisor
  unfold HasInt64 at range ⊢
  omega

theorem tmod_eq_zero_or_sign (a b : Int) : a.tmod b = 0 ∨ (a.tmod b).sign = a.sign := by
  rw [← Int.sign_eq_zero_iff_zero, Int.sign_tmod]
  split
  · exact .inl rfl
  · exact .inr rfl

/-! ## Operators -/

namespace BinaryOp

/-- Whether an operator answers with an integer where that has 64 bits, and is refused otherwise. -/
def IsExact (op : BinaryOp) (outcome : Except EvalError Value) (exact : Int) : Prop :=
  (∀ c : Int64, outcome = .ok (.int c) ↔ c.toInt = exact) ∧
    (outcome = .error (.binaryMismatch op .int .int) ↔ ¬ HasInt64 exact)

/-- What the operators of arithmetic answer to two integers. -/
structure ExactArithmetic (a b : Int64) (outcome : BinaryOp → Except EvalError Value) : Prop where
  add : IsExact .add (outcome .add) (a.toInt + b.toInt)
  subtract : IsExact .subtract (outcome .subtract) (a.toInt - b.toInt)
  multiply : IsExact .multiply (outcome .multiply) (a.toInt * b.toInt)
  /-- Division by zero has an error of its own. -/
  divisionByZero : ∀ op, op = .divide ∨ op = .modulo →
    (outcome op = .error .divisionByZero ↔ b = 0)
  divisionRefused : ∀ op, op = .divide ∨ op = .modulo →
    (outcome op = .error (.binaryMismatch op .int .int) ↔ a = Int64.minValue ∧ b = -1)
  /-- Otherwise there are a quotient and a remainder that belong together. -/
  division : b ≠ 0 → ¬ (a = Int64.minValue ∧ b = -1) → ∃ quotient remainder : Int64,
    outcome .divide = .ok (.int quotient) ∧ outcome .modulo = .ok (.int remainder) ∧
      a.toInt = quotient.toInt * b.toInt + remainder.toInt ∧
      remainder.toInt.natAbs < b.toInt.natAbs ∧
      (remainder.toInt = 0 ∨ remainder.toInt.sign = a.toInt.sign)
  power : ∀ c : Int64, outcome .power = .ok (.int c) ↔
    (0 ≤ b.toInt ∧ b.toInt < 4294967296) ∧ c.toInt = a.toInt ^ b.toInt.toNat
  powerRefused : outcome .power = .error (.binaryMismatch .power .int .int) ↔
    ¬ ((0 ≤ b.toInt ∧ b.toInt < 4294967296) ∧ HasInt64 (a.toInt ^ b.toInt.toNat))

variable {op : BinaryOp} {a b : Int64}

/-- Operators that yield no truth value compute with both operands. -/
theorem onValues_arithmetic (computes : op.isPredicate = false) (both : op ≠ .coalesce)
    (lhs rhs : Value) : op.onValues lhs rhs = op.arithmetic lhs rhs := by
  have undecided : op.decided? lhs = none := by
    cases op <;> simp_all [decided?, isPredicate]
  rw [onValues_of_undecided undecided]
  cases op <;> simp_all [strict, isPredicate]

/-- An operator answers with the result on the integers of 64 bits. -/
theorem arithmetic_of_some {c : Int64} (divisible : ¬ (b = 0 ∧ (op = .divide ∨ op = .modulo)))
    (result : op.onInts? a b = some c) : op.arithmetic (.int a) (.int b) = .ok (.int c) := by
  simp only [arithmetic, if_neg divisible, result]

theorem arithmetic_of_none (divisible : ¬ (b = 0 ∧ (op = .divide ∨ op = .modulo)))
    (result : op.onInts? a b = none) :
    op.arithmetic (.int a) (.int b) = .error (.binaryMismatch op .int .int) := by
  simp only [arithmetic, if_neg divisible, result, Value.kind]

/-- Arithmetic whose result is an integer, if that has 64 bits, is exact; a division by zero is not
asked about. -/
theorem isExact_arithmetic {exact : Int} (divisible : ¬ (b = 0 ∧ (op = .divide ∨ op = .modulo)))
    (result : op.onInts? a b = int64Of? exact) :
    IsExact op (op.arithmetic (.int a) (.int b)) exact := by
  cases found : int64Of? exact with
  | some c =>
    have range : HasInt64 exact := by
      rw [← int64Of?_eq_some_iff.1 found]
      exact hasInt64_toInt c
    rw [arithmetic_of_some divisible (result.trans found)]
    refine ⟨fun d => ?_, iff_of_false (by simp) (not_not_intro range)⟩
    rw [← int64Of?_eq_some_iff, found]
    simp
  | none =>
    rw [arithmetic_of_none divisible (result.trans found)]
    refine ⟨fun d => ?_, iff_of_true rfl (int64Of?_eq_none_iff.1 found)⟩
    rw [← int64Of?_eq_some_iff, found]
    simp

theorem IsExact.exists_ok {outcome : Except EvalError Value} {exact : Int}
    (exactly : IsExact op outcome exact) (range : HasInt64 exact) :
    ∃ c : Int64, outcome = .ok (.int c) ∧ c.toInt = exact := by
  obtain ⟨c, same⟩ := exists_toInt_iff.2 range
  exact ⟨c, (exactly.1 c).2 same, same⟩

/-! ### Division -/

theorem arithmetic_zero (a : Int64) (zero : b = 0) (divides : op = .divide ∨ op = .modulo) :
    op.arithmetic (.int a) (.int b) = .error .divisionByZero := by
  simp only [arithmetic, if_pos (And.intro zero divides)]

theorem onInts?_least (divides : op = .divide ∨ op = .modulo) :
    op.onInts? Int64.minValue (-1) = none := by
  rcases divides with rfl | rfl
  · exact int64Of?_eq_none_iff.2 fun range => absurd range.2 (by decide)
  · rw [onInts?, if_pos ⟨rfl, rfl⟩]

theorem arithmetic_divide (divisor : b ≠ 0) (others : ¬ (a = Int64.minValue ∧ b = -1)) :
    ∃ c : Int64, BinaryOp.divide.arithmetic (.int a) (.int b) = .ok (.int c) ∧
      c.toInt = a.toInt.tdiv b.toInt := by
  have nonzero : b.toInt ≠ 0 := fun zero => divisor (Int64.toInt_inj.1 zero)
  have exactly : IsExact .divide (BinaryOp.divide.arithmetic (.int a) (.int b))
      (a.toInt.tdiv b.toInt) := isExact_arithmetic (fun zero => divisor zero.1) rfl
  exact exactly.exists_ok (hasInt64_tdiv nonzero others)

theorem arithmetic_modulo (divisor : b ≠ 0) (others : ¬ (a = Int64.minValue ∧ b = -1)) :
    ∃ c : Int64, BinaryOp.modulo.arithmetic (.int a) (.int b) = .ok (.int c) ∧
      c.toInt = a.toInt.tmod b.toInt := by
  have nonzero : b.toInt ≠ 0 := fun zero => divisor (Int64.toInt_inj.1 zero)
  have exactly : IsExact .modulo (BinaryOp.modulo.arithmetic (.int a) (.int b))
      (a.toInt.tmod b.toInt) :=
    isExact_arithmetic (fun zero => divisor zero.1) (if_neg others)
  exact exactly.exists_ok (hasInt64_tmod a.toInt nonzero)

/-- A division ends in one of three ways. -/
theorem arithmetic_division (a b : Int64) (divides : op = .divide ∨ op = .modulo) :
    (b = 0 ∧ op.arithmetic (.int a) (.int b) = .error .divisionByZero) ∨
      ((a = Int64.minValue ∧ b = -1) ∧
        op.arithmetic (.int a) (.int b) = .error (.binaryMismatch op .int .int)) ∨
      (b ≠ 0 ∧ ¬ (a = Int64.minValue ∧ b = -1) ∧
        ∃ c, op.arithmetic (.int a) (.int b) = .ok (.int c)) := by
  by_cases zero : b = 0
  · exact .inl ⟨zero, arithmetic_zero a zero divides⟩
  · refine .inr ?_
    by_cases least : a = Int64.minValue ∧ b = -1
    · obtain ⟨rfl, rfl⟩ := least
      exact .inl ⟨⟨rfl, rfl⟩, arithmetic_of_none (fun both => zero both.1) (onInts?_least divides)⟩
    · refine .inr ⟨zero, least, ?_⟩
      rcases divides with rfl | rfl
      · obtain ⟨c, answered, -⟩ := arithmetic_divide zero least
        exact ⟨c, answered⟩
      · obtain ⟨c, answered, -⟩ := arithmetic_modulo zero least
        exact ⟨c, answered⟩

theorem arithmetic_eq_divisionByZero_iff (divides : op = .divide ∨ op = .modulo) :
    op.arithmetic (.int a) (.int b) = .error .divisionByZero ↔ b = 0 := by
  rcases arithmetic_division a b divides with ⟨zero, failed⟩ | ⟨⟨-, minus⟩, refused⟩ |
    ⟨nonzero, -, c, answered⟩
  · rw [failed]
    exact iff_of_true rfl zero
  · rw [refused, minus]
    exact iff_of_false (by simp) (by decide)
  · rw [answered]
    exact iff_of_false (by simp) nonzero

theorem arithmetic_eq_mismatch_iff (divides : op = .divide ∨ op = .modulo) :
    op.arithmetic (.int a) (.int b) = .error (.binaryMismatch op .int .int) ↔
      a = Int64.minValue ∧ b = -1 := by
  rcases arithmetic_division a b divides with ⟨zero, failed⟩ | ⟨least, refused⟩ |
    ⟨-, others, c, answered⟩
  · rw [failed, zero]
    exact iff_of_false (by simp) fun least => absurd least.2 (by decide)
  · rw [refused]
    exact iff_of_true rfl least
  · rw [answered]
    exact iff_of_false (by simp) others

/-! ### Powers -/

/-- An exponent that is taken makes a power exact; the others are refused. -/
theorem arithmetic_power (a b : Int64) :
    (0 ≤ b.toInt ∧ b.toInt < 4294967296) ∧
        IsExact .power (BinaryOp.power.arithmetic (.int a) (.int b))
          (a.toInt ^ b.toInt.toNat) ∨
      ¬ (0 ≤ b.toInt ∧ b.toInt < 4294967296) ∧
        BinaryOp.power.arithmetic (.int a) (.int b) =
          .error (.binaryMismatch .power .int .int) := by
  have undivided : ¬ (b = 0 ∧ (BinaryOp.power = .divide ∨ BinaryOp.power = .modulo)) := by simp
  by_cases taken : 0 ≤ b.toInt ∧ b.toInt < 4294967296
  · have result : BinaryOp.power.onInts? a b = int64Of? (a.toInt ^ b.toInt.toNat) :=
      (if_pos taken).trans (power64?_eq _ _)
    exact .inl ⟨taken, isExact_arithmetic undivided result⟩
  · exact .inr ⟨taken, arithmetic_of_none undivided (if_neg taken)⟩

/-- Arithmetic on two integers of 64 bits is exact or refused. The answers do not depend on the
errors that an operator is used among. -/
theorem onValues_exactArithmetic (a b : Int64) :
    (∀ {ε : Type} (lift : EvalError → ε) (op : BinaryOp),
        op.apply lift (.int a) (fun _ => .ok (.int b)) =
          (op.onValues (.int a) (.int b)).mapError lift) ∧
      ExactArithmetic a b fun op => op.onValues (.int a) (.int b) := by
  refine ⟨fun lift op => apply_values lift op _ _, ?_⟩
  have computed (op : BinaryOp) (computes : op.isPredicate = false) (both : op ≠ .coalesce) :
      op.onValues (.int a) (.int b) = op.arithmetic (.int a) (.int b) :=
    onValues_arithmetic computes both _ _
  have divided (op : BinaryOp) (divides : op = .divide ∨ op = .modulo) :
      op.onValues (.int a) (.int b) = op.arithmetic (.int a) (.int b) := by
    rcases divides with rfl | rfl
    · exact computed .divide rfl (by decide)
    · exact computed .modulo rfl (by decide)
  constructor
  case add =>
    rw [computed .add rfl (by decide)]
    exact isExact_arithmetic (by simp) rfl
  case subtract =>
    rw [computed .subtract rfl (by decide)]
    exact isExact_arithmetic (by simp) rfl
  case multiply =>
    rw [computed .multiply rfl (by decide)]
    exact isExact_arithmetic (by simp) rfl
  case divisionByZero =>
    intro op divides
    rw [divided op divides]
    exact arithmetic_eq_divisionByZero_iff divides
  case divisionRefused =>
    intro op divides
    rw [divided op divides]
    exact arithmetic_eq_mismatch_iff divides
  case division =>
    intro divisor others
    have nonzero : b.toInt ≠ 0 := fun zero => divisor (Int64.toInt_inj.1 zero)
    obtain ⟨quotient, quotientAnswered, quotientExact⟩ := arithmetic_divide divisor others
    obtain ⟨remainder, remainderAnswered, remainderExact⟩ := arithmetic_modulo divisor others
    refine ⟨quotient, remainder, (divided .divide (.inl rfl)).trans quotientAnswered,
      (divided .modulo (.inr rfl)).trans remainderAnswered, ?_⟩
    rw [quotientExact, remainderExact]
    exact ⟨(Int.tdiv_mul_add_tmod _ _).symm, natAbs_tmod_lt nonzero, tmod_eq_zero_or_sign _ _⟩
  case power =>
    intro c
    rw [computed .power rfl (by decide)]
    rcases arithmetic_power a b with ⟨taken, exactly⟩ | ⟨untaken, refused⟩
    · rw [exactly.1 c]
      exact (and_iff_right taken).symm
    · rw [refused]
      exact iff_of_false (by simp) fun both => untaken both.1
  case powerRefused =>
    rw [computed .power rfl (by decide)]
    rcases arithmetic_power a b with ⟨taken, exactly⟩ | ⟨untaken, refused⟩
    · rw [exactly.2, and_iff_right taken]
    · rw [refused]
      exact iff_of_true rfl fun both => untaken both.1

/-- The least integer of 64 bits is a power that just fits. -/
example : BinaryOp.power.onValues (.int (-2)) (.int 63) = .ok (.int Int64.minValue) :=
  rfl

end BinaryOp

end SqlLowering
