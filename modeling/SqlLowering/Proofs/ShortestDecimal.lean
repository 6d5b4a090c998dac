import Mathlib.Algebra.Order.Field.Power
import Mathlib.Algebra.Order.Ring.Rat
import Mathlib.Tactic.Linarith
import Mathlib.Tactic.NormNum
import Mathlib.Tactic.Positivity
import Mathlib.Tactic.Ring
import SqlLowering.Decimal.Style

/-!
# The shortest decimal tells floating-point numbers apart

The decimals that read back as a floating-point number are those of an interval around it,
`Quarters.Reach`. The intervals of different numbers do not meet: a midpoint belongs to the number
with the even mantissa only. The search for the shortest decimal ends with one inside the interval,
because the grids that it goes through become finer than the interval is wide before the fuel is
used up. So the shortest decimals of different numbers are different.
-/

namespace SqlLowering

namespace Decimal

/-- The number that a numeral denotes. -/
def Numeral.value (n : Numeral) : ℚ :=
  n.digits * 10 ^ n.exponent

theorem pow_toNat {a : ℚ} (nonzero : a ≠ 0) (n : Int) : a ^ n.toNat = a ^ n * a ^ (-n).toNat := by
  have parts : n = n.toNat - (-n).toNat := by omega
  have whole : a ^ n = a ^ n.toNat / a ^ (-n).toNat := by
    rw [← zpow_natCast, ← zpow_natCast, ← zpow_sub₀ nonzero, ← parts]
  rw [whole, div_mul_cancel₀ _ (pow_ne_zero _ nonzero)]

namespace Quarters

variable {q : Quarters} {k : Int} {tie : Tie}

/-! ## Reading back -/

/-- A decimal reads back as the number: it lies between the midpoints to its neighbours, which count
when the mantissa is even. -/
def Reach (q : Quarters) (x : ℚ) : Prop :=
  if q.mantissa % 2 = 0 then q.low * 2 ^ (q.exponent - 2) ≤ x ∧ x ≤ q.high * 2 ^ (q.exponent - 2)
  else q.low * 2 ^ (q.exponent - 2) < x ∧ x < q.high * 2 ^ (q.exponent - 2)

/-- What quarters and steps are counted in. -/
def scale (q : Quarters) (k : Int) : ℚ :=
  10 ^ (-k).toNat * 2 ^ (2 - q.exponent).toNat

theorem scale_pos : 0 < q.scale k := by
  unfold scale
  positivity

theorem quarter_eq : (q.quarter k : ℚ) = 2 ^ (q.exponent - 2) * q.scale k := by
  have power := pow_toNat (two_ne_zero : (2 : ℚ) ≠ 0) (q.exponent - 2)
  rw [neg_sub] at power
  unfold quarter scale
  push_cast [Nat.pow_eq]
  rw [power]
  ring

theorem step_eq : (q.step k : ℚ) = 10 ^ k * q.scale k := by
  have power := pow_toNat (by norm_num : (10 : ℚ) ≠ 0) k
  unfold step scale
  push_cast [Nat.pow_eq]
  rw [power]
  ring

/-- The test on whole numbers says whether a decimal reads back as the number. -/
theorem readsBack_iff {d : Nat} : q.readsBack k d = true ↔ q.Reach (d * 10 ^ k) := by
  have lower (n : Nat) : n * q.quarter k ≤ d * q.step k ↔
      n * 2 ^ (q.exponent - 2) ≤ (d * 10 ^ k : ℚ) := by
    rw [← Nat.cast_le (α := ℚ)]
    push_cast [quarter_eq, step_eq]
    rw [← mul_assoc, ← mul_assoc, mul_le_mul_iff_left₀ scale_pos]
  have upper (n : Nat) : d * q.step k ≤ n * q.quarter k ↔
      (d * 10 ^ k : ℚ) ≤ n * 2 ^ (q.exponent - 2) := by
    rw [← Nat.cast_le (α := ℚ)]
    push_cast [quarter_eq, step_eq]
    rw [← mul_assoc, ← mul_assoc, mul_le_mul_iff_left₀ scale_pos]
  unfold readsBack Reach
  simp only
  split
  · rw [Bool.and_eq_true, decide_eq_true_eq, decide_eq_true_eq, lower, upper]
  · rw [Bool.and_eq_true, decide_eq_true_eq, decide_eq_true_eq, ← not_le, ← not_le, lower, upper,
      not_le, not_le]

/-! ## The search -/

theorem step_pos : 0 < q.step k :=
  Nat.mul_pos (Nat.pow_pos (by decide)) (Nat.pow_pos (by decide))

/-- The nearer one of two points is one of the two. -/
theorem nearer_cases (d : Nat) : q.nearer tie k d = d ∨ q.nearer tie k d = d + 1 := by
  unfold nearer
  simp only
  split
  · exact .inl rfl
  · split
    · exact .inr rfl
    · cases tie with
      | toEven =>
        by_cases even : d % 2 = 0
        · exact .inl (if_pos even)
        · exact .inr (if_neg even)
      | up => exact .inr rfl

/-- What is found on a grid reads back. -/
theorem readsBack_of_onGrid? {d : Nat} (found : q.onGrid? tie k = some d) :
    q.readsBack k d = true := by
  unfold onGrid? at found
  simp only at found
  generalize 4 * q.mantissa * q.quarter k / q.step k = below at found
  split at found
  · next first second =>
    obtain rfl := Option.some.inj found
    rcases nearer_cases below with same | same
    · rw [same]
      exact first
    · rw [same]
      exact second
  · next first _ =>
    obtain rfl := Option.some.inj found
    exact first
  · next _ second =>
    obtain rfl := Option.some.inj found
    exact second
  · cases found

/-- On a grid finer than half of the distance to the neighbour above something is found: the first
point beyond the number. -/
theorem exists_onGrid? (fine : q.step k < 2 * q.quarter k) : ∃ d, q.onGrid? tie k = some d := by
  have beyond : 4 * q.mantissa * q.quarter k <
      (4 * q.mantissa * q.quarter k / q.step k + 1) * q.step k :=
    Nat.lt_mul_of_div_lt (Nat.lt_succ_self _) step_pos
  have below : 4 * q.mantissa * q.quarter k / q.step k * q.step k ≤ 4 * q.mantissa * q.quarter k :=
    Nat.div_mul_le_self _ _
  have low : q.low * q.quarter k ≤ 4 * q.mantissa * q.quarter k := by
    refine Nat.mul_le_mul_right _ ?_
    unfold Quarters.low
    split <;> omega
  have high : q.high * q.quarter k = 4 * q.mantissa * q.quarter k + 2 * q.quarter k :=
    Nat.add_mul _ _ _
  have hit : q.readsBack k (4 * q.mantissa * q.quarter k / q.step k + 1) = true := by
    unfold readsBack
    simp only
    rw [Nat.add_mul, Nat.one_mul] at beyond ⊢
    split
    · rw [Bool.and_eq_true, decide_eq_true_eq, decide_eq_true_eq]
      omega
    · rw [Bool.and_eq_true, decide_eq_true_eq, decide_eq_true_eq]
      omega
  unfold onGrid?
  simp only [hit]
  split
  · exact ⟨_, rfl⟩
  · exact ⟨_, rfl⟩
  · exact ⟨_, rfl⟩
  · next nothing => cases nothing

/-- The search ends with a decimal that reads back if one of its grids has one. -/
theorem reach_search {fuel : Nat} {steps : Nat} (within : steps < fuel)
    (found : ∃ d, q.onGrid? tie (k - steps) = some d) : q.Reach (q.search tie fuel k).value := by
  induction fuel generalizing k steps with
  | zero => cases within
  | succ fuel ih =>
    unfold search
    cases hit : q.onGrid? tie k with
    | some d => exact readsBack_iff.1 (readsBack_of_onGrid? hit)
    | none =>
      -- Nothing on the first grid, so the one that has something comes later.
      obtain ⟨fewer, rfl⟩ : ∃ fewer, steps = fewer + 1 := by
        refine ⟨steps - 1, ?_⟩
        rcases Nat.eq_zero_or_pos steps with rfl | positive
        · obtain ⟨d, found⟩ := found
          simp [hit] at found
        · omega
      refine ih (Nat.lt_of_succ_lt_succ within) ?_
      rwa [show k - 1 - (fewer : Int) = k - (fewer + 1 : Nat) by push_cast; omega]

end Quarters

/-! ## Powers of two and of ten -/

theorem ten_pow_lt_two_pow {a b : Nat} (less : 10 * a < 3 * b) : 10 ^ a < 2 ^ b := by
  refine lt_of_pow_lt_pow_left₀ 3 (Nat.zero_le _) ?_
  calc (10 ^ a) ^ 3 = (10 ^ 3) ^ a := by rw [← Nat.pow_mul, ← Nat.pow_mul, Nat.mul_comm]
    _ ≤ (2 ^ 10) ^ a := Nat.pow_le_pow_left (by decide) a
    _ = 2 ^ (10 * a) := (Nat.pow_mul ..).symm
    _ < 2 ^ (3 * b) := Nat.pow_lt_pow_right (by decide) less
    _ = (2 ^ b) ^ 3 := by rw [← Nat.pow_mul, Nat.mul_comm]

theorem two_pow_lt_ten_pow {a b : Nat} (less : 28 * b < 93 * a) : 2 ^ b < 10 ^ a := by
  refine lt_of_pow_lt_pow_left₀ 28 (Nat.zero_le _) ?_
  calc (2 ^ b) ^ 28 = 2 ^ (28 * b) := by rw [← Nat.pow_mul, Nat.mul_comm]
    _ < 2 ^ (93 * a) := Nat.pow_lt_pow_right (by decide) less
    _ = (2 ^ 93) ^ a := Nat.pow_mul ..
    _ ≤ (10 ^ 28) ^ a := Nat.pow_le_pow_left (by decide) a
    _ = (10 ^ a) ^ 28 := by rw [← Nat.pow_mul, ← Nat.pow_mul, Nat.mul_comm]

/-- A thousand is less than `2 ^ 10`, and `2 ^ 93` less than `10 ^ 28`. -/
theorem ten_zpow_lt_two_zpow {j n : Int} (above : 0 ≤ j → 10 * j < 3 * n)
    (below : j < 0 → 93 * j < 28 * n) : (10 : ℚ) ^ j < 2 ^ n := by
  rcases lt_or_ge j 0 with negative | whole
  · have less := below negative
    have inverse : ((10 : ℚ) ^ j.natAbs)⁻¹ < (2 ^ (-n).toNat)⁻¹ := by
      refine inv_strictAnti₀ (by positivity) ?_
      exact_mod_cast two_pow_lt_ten_pow (by omega)
    calc (10 : ℚ) ^ j = (10 ^ j.natAbs)⁻¹ := by
          rw [← zpow_natCast, ← zpow_neg]
          congr 1
          omega
      _ < (2 ^ (-n).toNat)⁻¹ := inverse
      _ = 2 ^ (-((-n).toNat : Int)) := by rw [zpow_neg, zpow_natCast]
      _ ≤ 2 ^ n := zpow_le_zpow_right₀ one_le_two (by omega)
  · obtain ⟨a, rfl⟩ := Int.eq_ofNat_of_zero_le whole
    obtain ⟨b, rfl⟩ : ∃ b : Nat, n = b := Int.eq_ofNat_of_zero_le (by have := above whole; omega)
    rw [zpow_natCast, zpow_natCast]
    exact_mod_cast ten_pow_lt_two_pow (by have := above whole; omega)

namespace Quarters

variable {q : Quarters} {k : Int} {tie : Tie}

theorem step_lt_of_zpow (fine : (10 : ℚ) ^ k < 2 ^ (q.exponent - 1)) :
    q.step k < 2 * q.quarter k := by
  have halves : (2 : ℚ) ^ (q.exponent - 1) = 2 * 2 ^ (q.exponent - 2) := by
    rw [← zpow_one_add₀ two_ne_zero]
    congr 1
    omega
  have scaled := mul_lt_mul_of_pos_right fine (scale_pos : 0 < q.scale k)
  rw [halves, mul_assoc, ← quarter_eq, ← step_eq] at scaled
  exact_mod_cast scaled

/-- The shortest decimal of a number of at most 53 bits in the range of the exponents reads back.
The last of the grids that are searched is fine enough. -/
theorem reach_shortest (nonzero : q.mantissa ≠ 0) (bits : q.mantissa < 2 ^ 53)
    (range : -1074 ≤ q.exponent ∧ q.exponent ≤ 971) : q.Reach (q.shortest tie).value := by
  have short : q.mantissa.log2 < 53 := (Nat.log2_lt nonzero).2 bits
  refine reach_search (by decide : 23 < 24) (exists_onGrid? (step_lt_of_zpow ?_))
  unfold scaleAbove
  refine ten_zpow_lt_two_zpow ?_ ?_
  · intro whole
    omega
  · intro negative
    omega

/-! ## The intervals of different numbers -/

theorem Reach.le_high {x : ℚ} (reach : q.Reach x) : x ≤ q.high * 2 ^ (q.exponent - 2) := by
  unfold Reach at reach
  split at reach
  · exact reach.2
  · exact reach.2.le

theorem Reach.low_le {x : ℚ} (reach : q.Reach x) : q.low * 2 ^ (q.exponent - 2) ≤ x := by
  unfold Reach at reach
  split at reach
  · exact reach.1
  · exact reach.1.le

theorem Reach.of_odd {x : ℚ} (reach : q.Reach x) (odd : q.mantissa % 2 = 1) :
    q.low * 2 ^ (q.exponent - 2) < x ∧ x < q.high * 2 ^ (q.exponent - 2) := by
  unfold Reach at reach
  rwa [if_neg (by omega)] at reach

/-- Of two intervals that at most touch, the first lies before the second, unless both count the
point where they touch. -/
theorem Reach.lt {first second : Quarters} {x y : ℚ} (left : first.Reach x)
    (right : second.Reach y)
    (before : (first.high * 2 ^ (first.exponent - 2) : ℚ) ≤
      second.low * 2 ^ (second.exponent - 2))
    (apart : first.mantissa % 2 = 1 ∨ second.mantissa % 2 = 1 ∨
      (first.high * 2 ^ (first.exponent - 2) : ℚ) < second.low * 2 ^ (second.exponent - 2)) :
    x < y := by
  rcases apart with odd | odd | strict
  · exact (left.of_odd odd).2.trans_le (before.trans right.low_le)
  · exact (left.le_high.trans before).trans_lt (right.of_odd odd).1
  · exact left.le_high.trans_lt (strict.trans_le right.low_le)

end Quarters

end Decimal

namespace Binary64

open Decimal (Quarters)

namespace Finite

/-- The form of a finite number: 53 bits and a bounded exponent, and all 53 bits used unless the
exponent is the least one. -/
structure IsProper (x : Finite) : Prop where
  mantissa_lt : x.mantissa < 2 ^ 53
  least_le : leastExponent ≤ x.exponent
  exponent_le : x.exponent ≤ 971
  full : leastExponent < x.exponent → 2 ^ 52 ≤ x.mantissa

/-- The size of a finite number in quarters of its unit. -/
def quarters (x : Finite) : Quarters :=
  ⟨x.mantissa, x.exponent, x.mantissa = Nat.pow 2 52 ∧ leastExponent < x.exponent⟩

variable {first second : Finite} {x y : ℚ}

/-- Numbers of one exponent: the midpoint between neighbours belongs to the even one. -/
theorem reach_lt_of_mantissa (same : first.exponent = second.exponent)
    (less : first.mantissa < second.mantissa) (left : first.quarters.Reach x)
    (right : second.quarters.Reach y) : x < y := by
  have unit : (0 : ℚ) < 2 ^ (second.exponent - 2) := by positivity
  have low : 4 * second.mantissa - 2 ≤ second.quarters.low := by
    unfold Quarters.low
    split
    · exact Nat.sub_le_sub_left (by decide) _
    · exact Nat.le_refl _
  have high : first.quarters.high = 4 * first.mantissa + 2 := rfl
  have exponents : first.quarters.exponent - 2 = second.exponent - 2 := congrArg (· - 2) same
  refine left.lt right ?_ ?_
  · rw [exponents]
    refine mul_le_mul_of_nonneg_right ?_ unit.le
    exact_mod_cast (by omega : first.quarters.high ≤ second.quarters.low)
  · by_cases next : first.mantissa + 1 = second.mantissa
    · change first.mantissa % 2 = 1 ∨ second.mantissa % 2 = 1 ∨ _
      omega
    · refine .inr (.inr ?_)
      rw [exponents]
      refine mul_lt_mul_of_pos_right ?_ unit
      exact_mod_cast (by omega : first.quarters.high < second.quarters.low)

/-- Numbers of different exponents: the greater one uses all bits, and the midpoint below the least
such mantissa is the one above the greatest mantissa, which is odd. -/
theorem reach_lt_of_exponent (proper : first.IsProper) (properNext : second.IsProper)
    (less : first.exponent < second.exponent) (left : first.quarters.Reach x)
    (right : second.quarters.Reach y) : x < y := by
  have unit : (0 : ℚ) < 2 ^ (first.exponent - 2) := by positivity
  have units : (2 : ℚ) * 2 ^ (first.exponent - 2) ≤ 2 ^ (second.exponent - 2) := by
    rw [← zpow_one_add₀ two_ne_zero]
    exact zpow_le_zpow_right₀ one_le_two (by omega)
  have least : leastExponent < second.exponent := lt_of_le_of_lt proper.least_le less
  have full := properNext.full least
  have low : 2 ^ 54 ≤ second.quarters.low + 1 := by
    unfold Quarters.low
    split
    · change 2 ^ 54 ≤ 4 * second.mantissa - 1 + 1
      omega
    · next wide =>
      have notLeast : second.mantissa ≠ 2 ^ 52 := by
        intro equal
        exact wide (decide_eq_true ⟨equal, least⟩)
      change 2 ^ 54 ≤ 4 * second.mantissa - 2 + 1
      omega
  have high : first.quarters.high = 4 * first.mantissa + 2 := rfl
  have bits := proper.mantissa_lt
  have start : (2 ^ 55 - 2 : ℚ) * 2 ^ (first.exponent - 2) ≤
      second.quarters.low * 2 ^ (second.exponent - 2) := by
    have cast : (2 ^ 54 : ℚ) ≤ second.quarters.low + 1 := by exact_mod_cast low
    calc (2 ^ 55 - 2 : ℚ) * 2 ^ (first.exponent - 2)
        = (2 ^ 54 - 1) * (2 * 2 ^ (first.exponent - 2)) := by ring
      _ ≤ second.quarters.low * 2 ^ (second.exponent - 2) :=
        mul_le_mul (by linarith) units (by positivity) (by positivity)
  refine left.lt right (le_trans ?_ start) ?_
  · have cast : (first.quarters.high + 2 : ℚ) ≤ 2 ^ 55 := by
      exact_mod_cast (by omega : first.quarters.high + 2 ≤ 2 ^ 55)
    exact mul_le_mul_of_nonneg_right (by linarith) unit.le
  · by_cases greatest : first.mantissa = 2 ^ 53 - 1
    · refine .inl ?_
      change first.mantissa % 2 = 1
      omega
    · have cast : (first.quarters.high + 2 : ℚ) < 2 ^ 55 := by
        exact_mod_cast (by omega : first.quarters.high + 2 < 2 ^ 55)
      refine .inr (.inr (lt_of_lt_of_le ?_ start))
      exact mul_lt_mul_of_pos_right (by linarith) unit

/-- A decimal reads back as one number at most. -/
theorem eq_of_reach (proper : first.IsProper) (properNext : second.IsProper)
    (left : first.quarters.Reach x) (right : second.quarters.Reach x) :
    first.mantissa = second.mantissa ∧ first.exponent = second.exponent := by
  rcases lt_trichotomy first.exponent second.exponent with less | same | greater
  · exact absurd (reach_lt_of_exponent proper properNext less left right) (lt_irrefl x)
  · refine ⟨?_, same⟩
    rcases lt_trichotomy first.mantissa second.mantissa with less | equal | greater
    · exact absurd (reach_lt_of_mantissa same less left right) (lt_irrefl x)
    · exact equal
    · exact absurd (reach_lt_of_mantissa same.symm greater right left) (lt_irrefl x)
  · exact absurd (reach_lt_of_exponent properNext proper greater right left) (lt_irrefl x)

theorem IsProper.reach_shortest (proper : first.IsProper) (nonzero : first.mantissa ≠ 0)
    (tie : Decimal.Tie) : first.quarters.Reach (first.quarters.shortest tie).value :=
  Quarters.reach_shortest nonzero proper.mantissa_lt ⟨proper.least_le, proper.exponent_le⟩

/-- What reads back as a number other than zero is positive. -/
theorem reach_pos (nonzero : first.mantissa ≠ 0) (reach : first.quarters.Reach x) : 0 < x := by
  have low : 0 < first.quarters.low := by
    have positive : 1 ≤ first.quarters.mantissa := Nat.pos_of_ne_zero nonzero
    unfold Quarters.low
    split <;> omega
  have start : (0 : ℚ) < first.quarters.low * 2 ^ (first.quarters.exponent - 2) := by positivity
  exact start.trans_le reach.low_le

end Finite

/-! ## The bits of finite numbers -/

theorem toBits_inj {x y : Float} (same : x.toBits = y.toBits) : x = y := by
  obtain ⟨⟨bits, valid⟩⟩ := x
  obtain ⟨⟨others, validToo⟩⟩ := y
  cases same
  rfl

open Float.Model (Format UnpackedFloat) in
/-- The exponent bits of a finite number are not all set. -/
theorem exponentBits_ne_of_isFinite {x : Float} (finite : x.isFinite = true) :
    x.toBits.toNat / 2 ^ 52 % 2 ^ 11 ≠ 2 ^ 11 - 1 := by
  intro infinite
  have ones : @UnpackedFloat.unpackExponent Format.binary64 x.toModel.toBits.toBitVec = -1#11 := by
    apply BitVec.eq_of_toNat_eq
    unfold UnpackedFloat.unpackExponent
    rw [BitVec.toNat_cast, BitVec.extractLsb_toNat, Nat.shiftRight_eq_div_pow]
    exact infinite
  have notFinite : x.isFinite = false := by
    unfold Float.isFinite Float.Model.isFinite Float.Model.unpack UnpackedFloat.unpack
    dsimp only
    rw [if_pos ones]
    split <;> rfl
  rw [notFinite] at finite
  cases finite

theorem exists_finite? {x : Float} (finite : x.isFinite = true) : ∃ parts, finite? x = some parts :=
  ⟨_, if_neg (exponentBits_ne_of_isFinite finite)⟩

theorem isProper_of_finite? {x : Float} {parts : Finite} (found : finite? x = some parts) :
    parts.IsProper := by
  unfold finite? at found
  simp only [Nat.pow_eq, Nat.reducePow, Nat.reduceSub] at found
  split at found
  · cases found
  · obtain rfl := Option.some.inj found
    constructor <;> simp only [leastExponent]
    · split <;> omega
    · omega
    · omega
    · intro above
      split <;> omega

/-- Sign, mantissa and exponent determine the number. -/
theorem eq_of_finite? {x y : Float} {parts : Finite} (first : finite? x = some parts)
    (second : finite? y = some parts) : x = y := by
  have xBits : x.toBits.toNat < 2 ^ 64 := x.toBits.toNat_lt
  have yBits : y.toBits.toNat < 2 ^ 64 := y.toBits.toNat_lt
  refine toBits_inj (UInt64.toNat_inj.1 ?_)
  unfold finite? at first second
  simp only [Nat.pow_eq, Nat.reducePow, Nat.reduceSub] at first second
  split at first
  · cases first
  · split at second
    · cases second
    · have same := Option.some.inj (first.trans second.symm)
      simp only [Finite.mk.injEq, leastExponent, decide_eq_decide] at same
      obtain ⟨sign, mantissa, exponent⟩ := same
      split at mantissa <;> split at mantissa <;> omega

end Binary64

end SqlLowering
