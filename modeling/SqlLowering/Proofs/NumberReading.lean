import SqlLowering.Json.Number
import SqlLowering.Json.Printer
import SqlLowering.Proofs.ShortestDecimal
import SqlLowering.Proofs.WrittenForms

/-!
# Number literals are read as they are written

A literal in its parts is read back from its characters, as long as what follows does not go on with
the number. The literal of a floating-point number has a point or an exponent, which no literal of
an integer has, and denotes a decimal that reads back as the number.
-/

namespace SqlLowering

namespace Json

namespace NumberText

/-! ## The characters of a literal -/

/-- The characters of a fraction, with its point. -/
def fractionChars : Option (List Char) → List Char
  | some digits => '.' :: digits
  | none => []

/-- The characters of an exponent, always with a sign. -/
def exponentChars : Option (Bool × List Char) → List Char
  | some (negative, digits) => 'e' :: (if negative then '-' else '+') :: digits
  | none => []

/-- The characters of a literal without its sign. -/
def sizeChars (text : NumberText) : List Char :=
  text.whole ++ fractionChars text.fraction ++ exponentChars text.exponent

/-- The characters of a literal. -/
def chars (text : NumberText) : List Char :=
  if text.negative then '-' :: text.sizeChars else text.sizeChars

/-- At least one digit and nothing else. -/
def AreDigits (digits : List Char) : Prop :=
  digits ≠ [] ∧ ∀ c ∈ digits, c.isDigit = true

/-- A literal that the grammar allows: its parts are digits, and the whole part has no zero in front
of other digits. -/
structure IsGrammatical (text : NumberText) : Prop where
  whole : AreDigits text.whole
  whole_zero : text.whole = ['0'] ∨ text.whole.head? ≠ some '0'
  fraction : ∀ digits, text.fraction = some digits → AreDigits digits
  exponent : ∀ negative digits, text.exponent = some (negative, digits) → AreDigits digits

/-- What follows a number does not go on with it. -/
def Ends (rest : List Char) : Prop :=
  ∀ c ∈ rest.head?, c.isDigit = false ∧ c ≠ '.' ∧ c ≠ 'e' ∧ c ≠ 'E'

variable {rest digits : List Char}

/-! ## Reading the parts -/

theorem digits?_append (row : AreDigits digits) (stops : ∀ c ∈ rest.head?, c.isDigit = false) :
    digits? (digits ++ rest) = some (digits, rest) := by
  have taken : Text.takeDigits (digits ++ rest).length (digits ++ rest) = (digits, rest) :=
    Text.takeDigits_append row.2 (by simp) (.inr stops)
  obtain ⟨c, others, rfl⟩ := List.exists_cons_of_ne_nil row.1
  rw [digits?, taken]

/-- The digits in front of the point are read up to the first character that is none. -/
theorem whole?_append (row : AreDigits digits) (zero : digits = ['0'] ∨ digits.head? ≠ some '0')
    (stops : ∀ c ∈ rest.head?, c.isDigit = false) :
    whole? (digits ++ rest) = some (digits, rest) := by
  have read := digits?_append row stops
  rcases zero with rfl | other
  · cases rest with
    | nil => exact read
    | cons c rest =>
      have notDigit := stops c rfl
      simp [whole?, notDigit]
  · obtain ⟨c, others, rfl⟩ := List.exists_cons_of_ne_nil row.1
    unfold whole?
    split
    · next same =>
      rw [List.cons_append] at same
      obtain ⟨rfl, -⟩ := List.cons.inj same
      exact absurd rfl other
    · exact read

/-- A fraction, or none, is read up to the first character that cannot go on with it. -/
theorem fraction?_append {fraction : Option (List Char)}
    (rows : ∀ digits, fraction = some digits → AreDigits digits)
    (stops : ∀ c ∈ rest.head?, c.isDigit = false ∧ c ≠ '.') :
    fraction? (fractionChars fraction ++ rest) = some (fraction, rest) := by
  cases fraction with
  | some digits =>
    have read := digits?_append (rows digits rfl) fun c head => (stops c head).1
    simp [fractionChars, fraction?, read]
  | none =>
    unfold fraction? fractionChars
    split
    · next same =>
      rw [List.nil_append] at same
      exact absurd rfl (stops '.' (by rw [same]; rfl)).2
    · rfl

/-- An exponent, or none, is read up to the end of the number. -/
theorem exponent?_append {exponent : Option (Bool × List Char)}
    (rows : ∀ negative digits, exponent = some (negative, digits) → AreDigits digits)
    (ends : Ends rest) :
    exponent? (exponentChars exponent ++ rest) = some (exponent, rest) := by
  cases exponent with
  | some parts =>
    obtain ⟨negative, digits⟩ := parts
    have read := digits?_append (rows negative digits rfl) fun c head => (ends c head).1
    cases negative <;> simp [exponentChars, exponent?, read]
  | none =>
    cases rest with
    | nil => rfl
    | cons c rest =>
      have other := ends c rfl
      simp [exponentChars, exponent?, other]

/-- The parts of a literal after its sign. -/
theorem readParts {text : NumberText} (grammatical : text.IsGrammatical) (ends : Ends rest) :
    (do
      let (whole, rest) ← whole? (text.sizeChars ++ rest)
      let (fraction, rest) ← fraction? rest
      let (exponent, rest) ← exponent? rest
      return (NumberText.mk text.negative whole fraction exponent, rest)) = some (text, rest) := by
  have exponentEnds : ∀ c ∈ (exponentChars text.exponent ++ rest).head?,
      c.isDigit = false ∧ c ≠ '.' := by
    cases text.exponent with
    | none => exact fun c head => ⟨(ends c head).1, (ends c head).2.1⟩
    | some parts => simp [exponentChars]
  have fractionEnds : ∀ c ∈ (fractionChars text.fraction ++
      (exponentChars text.exponent ++ rest)).head?, c.isDigit = false := by
    cases text.fraction with
    | none => exact fun c head => (exponentEnds c head).1
    | some digits => simp [fractionChars]
  have whole := whole?_append grammatical.whole grammatical.whole_zero fractionEnds
  have fraction := fraction?_append grammatical.fraction exponentEnds
  have exponent := exponent?_append grammatical.exponent ends
  rw [sizeChars, List.append_assoc, List.append_assoc, whole]
  simp [fraction, exponent]

/-- A literal is read back from its characters. -/
theorem scan?_chars {text : NumberText} (grammatical : text.IsGrammatical) (ends : Ends rest) :
    scan? (text.chars ++ rest) = some (text, rest) := by
  have parts := readParts grammatical ends
  unfold chars
  split
  · next negative =>
    rw [negative] at parts
    exact parts
  · next positive =>
    rw [Bool.not_eq_true] at positive
    rw [positive] at parts
    obtain ⟨c, others, written⟩ := List.exists_cons_of_ne_nil grammatical.whole.1
    have digit := grammatical.whole.2 c (written ▸ List.mem_cons_self)
    unfold scan?
    have sign : ∀ more, text.sizeChars ++ rest ≠ '-' :: more := by
      intro more same
      rw [sizeChars, written] at same
      obtain ⟨rfl, -⟩ := List.cons.inj same
      cases digit
    split
    next negative sizeText signed =>
    split at signed
    · next same => exact absurd same (sign _)
    · cases signed
      exact parts

/-! ## Integers -/

theorem areDigits_toDigits (n : Nat) : AreDigits (Nat.toDigits 10 n) :=
  ⟨Nat.toDigits_ne_nil, fun _ => Nat.isDigit_of_mem_toDigits (by decide) (by decide)⟩

/-- The digits of a positive number do not begin with a zero. -/
theorem head?_toDigits_ne {n : Nat} (positive : n ≠ 0) : (Nat.toDigits 10 n).head? ≠ some '0' := by
  induction n using Nat.strongRecOn with
  | ind n ih =>
    rw [Nat.toDigits_eq_if (by decide)]
    split
    · next small =>
      have digits : ∀ d : Fin 10, d.val ≠ 0 → [Nat.digitChar d.val].head? ≠ some '0' := by decide
      exact digits ⟨n, small⟩ positive
    · rw [List.head?_append_of_ne_nil _ Nat.toDigits_ne_nil]
      exact ih (n / 10) (by omega) (by omega)

/-- The literal of an integer. -/
def ofInt (i : Int) : NumberText :=
  ⟨decide (i < 0), Nat.toDigits 10 i.natAbs, none, none⟩

theorem isGrammatical_ofInt (i : Int) : (ofInt i).IsGrammatical where
  whole := areDigits_toDigits _
  whole_zero := by
    by_cases zero : i.natAbs = 0
    · refine .inl ?_
      rw [ofInt, zero]
      rfl
    · exact .inr (head?_toDigits_ne zero)
  fraction := by
    intro digits impossible
    cases impossible
  exponent := by
    intro negative digits impossible
    cases impossible

theorem chars_ofInt (i : Int) : (toString i).toList = (ofInt i).chars := by
  rw [Int.toString_eq_repr, Int.repr_eq_if]
  unfold chars sizeChars ofInt
  simp only [fractionChars, exponentChars, List.append_nil]
  split
  · next whole =>
    rw [if_neg (by simpa using whole), Nat.toList_repr]
    congr 1
    omega
  · next negative =>
    rw [if_pos (by simpa using negative), String.toList_append, Nat.toList_repr]
    change '-' :: Nat.toDigits 10 (-i).toNat = _
    congr 2
    omega

/-- The integer that a literal denotes, if it has neither a point nor an exponent. -/
def DenotesInt (text : NumberText) (i : Int) : Prop :=
  text.fraction = none ∧ text.exponent = none ∧
    i = if text.negative then -(Text.digitsValue text.whole : Int) else Text.digitsValue text.whole

theorem denotesInt_ofInt (i : Int) : (ofInt i).DenotesInt i := by
  refine ⟨rfl, rfl, ?_⟩
  simp only [ofInt, Text.digitsValue_toDigits]
  split
  · next negative =>
    have := of_decide_eq_true negative
    omega
  · next whole =>
    have := of_decide_eq_false (Bool.not_eq_true _ ▸ whole)
    omega

/-! ## Decimals -/

/-- The power of ten behind a literal. -/
def power (text : NumberText) : Int :=
  match text.exponent with
  | none => 0
  | some (negative, digits) =>
    if negative then -(Text.digitsValue digits : Int) else Text.digitsValue digits

/-- The number that a literal denotes, without its sign. -/
def size (text : NumberText) : ℚ :=
  Text.digitsValue (text.whole ++ text.fraction.getD []) *
    10 ^ (text.power - (text.fraction.getD []).length)

/-- The literal of digits with the point after the first `whole` of them. -/
def withPoint (digits : List Char) (whole : Int) : NumberText :=
  if whole ≤ 0 then
    ⟨false, ['0'], some (List.replicate (-whole).toNat '0' ++ digits), none⟩
  else if digits.length ≤ whole.toNat then
    ⟨false, digits ++ List.replicate (whole.toNat - digits.length) '0', some ['0'], none⟩
  else
    ⟨false, digits.take whole.toNat, some (digits.drop whole.toNat), none⟩

/-- The literal of digits with the point after the first of them and an exponent behind. -/
def withExponent (digits : List Char) (exponent : Int) : NumberText :=
  ⟨false, digits.take 1, if digits.length = 1 then none else some (digits.drop 1),
    some (decide (exponent < 0), Nat.toDigits 10 exponent.natAbs)⟩

theorem sizeChars_withPoint (digits : List Char) (whole : Int) :
    (withPoint digits whole).sizeChars = Decimal.withPoint true digits whole := by
  unfold withPoint Decimal.withPoint
  split
  · simp [sizeChars, fractionChars, exponentChars]
  · split <;> simp [sizeChars, fractionChars, exponentChars]

theorem sizeChars_withExponent (digits : List Char) (exponent : Int) :
    (withExponent digits exponent).sizeChars = Decimal.withExponent digits exponent := by
  unfold withExponent Decimal.withExponent sizeChars
  by_cases single : digits.length = 1
  · simp [single, fractionChars, exponentChars]
  · simp [single, fractionChars, exponentChars]

/-- Digits stay digits with zeros on either side. -/
theorem AreDigits.append_replicate (row : AreDigits digits) (count : Nat) :
    AreDigits (digits ++ List.replicate count '0') ∧
      AreDigits (List.replicate count '0' ++ digits) := by
  have zeros : ∀ c ∈ List.replicate count '0', c.isDigit = true := by
    intro c member
    rw [(List.mem_replicate.1 member).2]
    rfl
  refine ⟨⟨List.append_ne_nil_of_left_ne_nil row.1 _, ?_⟩,
    List.append_ne_nil_of_right_ne_nil _ row.1, ?_⟩
  · intro c member
    rcases List.mem_append.1 member with digit | zero
    · exact row.2 c digit
    · exact zeros c zero
  · intro c member
    rcases List.mem_append.1 member with zero | digit
    · exact zeros c zero
    · exact row.2 c digit

/-- Digits with a point in them make a literal, also where zeros have to fill up to the point. -/
theorem isGrammatical_withPoint (row : AreDigits digits) (nonzero : digits.head? ≠ some '0')
    (whole : Int) : (withPoint digits whole).IsGrammatical := by
  have noExponent : ∀ (negative : Bool) (digits : List Char),
      (none : Option (Bool × List Char)) = some (negative, digits) → AreDigits digits :=
    fun _ _ impossible => nomatch impossible
  unfold withPoint
  split
  · refine ⟨⟨by simp, by simp⟩, .inl rfl, ?_, noExponent⟩
    rintro _ ⟨⟩
    exact (row.append_replicate _).2
  · next positive =>
    split
    · refine ⟨(row.append_replicate _).1, .inr ?_, ?_, noExponent⟩
      · rwa [List.head?_append_of_ne_nil _ row.1]
      · rintro _ ⟨⟩
        exact ⟨by simp, by simp⟩
    · next short =>
      refine ⟨⟨?_, fun c member => row.2 c (List.mem_of_mem_take member)⟩, .inr ?_, ?_, noExponent⟩
      · simp only [ne_eq, List.take_eq_nil_iff, not_or]
        exact ⟨by omega, row.1⟩
      · rwa [List.head?_take, if_neg (by omega)]
      · rintro _ ⟨⟩
        refine ⟨?_, fun c member => row.2 c (List.mem_of_mem_drop member)⟩
        simp only [ne_eq, List.drop_eq_nil_iff]
        omega

/-- Digits with an exponent behind them make a literal. -/
theorem isGrammatical_withExponent (row : AreDigits digits) (nonzero : digits.head? ≠ some '0')
    (exponent : Int) : (withExponent digits exponent).IsGrammatical := by
  unfold withExponent
  refine ⟨⟨?_, fun c member => row.2 c (List.mem_of_mem_take member)⟩, .inr ?_, ?_, ?_⟩
  · simp only [ne_eq, List.take_eq_nil_iff, not_or]
    exact ⟨by decide, row.1⟩
  · rwa [List.head?_take, if_neg (by decide)]
  · intro others written
    simp only at written
    split at written
    · cases written
    · next more =>
      cases written
      refine ⟨?_, fun c member => row.2 c (List.mem_of_mem_drop member)⟩
      have positive := List.length_pos_of_ne_nil row.1
      simp only [ne_eq, List.drop_eq_nil_iff]
      omega
  · rintro _ _ ⟨⟩
    exact areDigits_toDigits _

/-- The size of digits with a point is their value, shifted by the place of the point. -/
theorem size_withPoint (digits : List Char) (whole : Int) :
    (withPoint digits whole).size = Text.digitsValue digits * 10 ^ (whole - digits.length) := by
  unfold withPoint
  split
  · next before =>
    have value : Text.digitsValue ('0' :: (List.replicate (-whole).toNat '0' ++ digits)) =
        Text.digitsValue digits :=
      Text.digitsValue_replicate_append ((-whole).toNat + 1) digits
    simp only [size, power, Option.getD_some, List.singleton_append, value, List.length_append,
      List.length_replicate]
    congr 2
    omega
  · next after =>
    split
    · next zeros =>
      have value : Text.digitsValue (digits ++ List.replicate (whole.toNat - digits.length) '0' ++
          ['0']) = 10 ^ (whole.toNat - digits.length + 1) * Text.digitsValue digits := by
        rw [List.append_assoc, ← List.replicate_succ', Text.digitsValue_append,
          Text.digitsValue_replicate, List.length_replicate, Nat.add_zero]
      simp only [size, power, Option.getD_some, value, List.length_singleton]
      push_cast
      rw [mul_comm ((10 : ℚ) ^ _), mul_assoc, ← zpow_natCast, ← zpow_add₀ (by norm_num)]
      congr 2
      push_cast
      omega
    · next short =>
      simp only [size, power, Option.getD_some, List.take_append_drop, List.length_drop]
      congr 2
      omega

/-- The size of digits with an exponent is their value, shifted by the exponent. -/
theorem size_withExponent (nonempty : digits ≠ []) (exponent : Int) :
    (withExponent digits exponent).size =
      Text.digitsValue digits * 10 ^ (exponent + 1 - digits.length) := by
  have positive := List.length_pos_of_ne_nil nonempty
  have whole : digits.take 1 ++
      (if digits.length = 1 then none else some (digits.drop 1)).getD [] = digits := by
    split
    · next single => simp [List.take_of_length_le, single]
    · exact List.take_append_drop 1 digits
  have length : ((if digits.length = 1 then none else some (digits.drop 1)).getD []).length =
      digits.length - 1 := by
    split
    · next single => simp [single]
    · simp
  have behind : (withExponent digits exponent).power = exponent := by
    simp only [power, withExponent, Text.digitsValue_toDigits]
    split
    · next negative =>
      have := of_decide_eq_true negative
      omega
    · next notNegative =>
      have := of_decide_eq_false (Bool.not_eq_true _ ▸ notNegative)
      omega
  rw [size, behind]
  simp only [withExponent, whole, length]
  congr 2
  omega

/-! ## Floating-point numbers -/

/-- Whether a literal has a point or an exponent. -/
def isDecimal (text : NumberText) : Bool :=
  text.fraction.isSome || text.exponent.isSome

theorem isDecimal_withPoint (digits : List Char) (whole : Int) :
    (withPoint digits whole).isDecimal = true := by
  unfold withPoint
  split
  · rfl
  · split <;> rfl

theorem isDecimal_withExponent (digits : List Char) (exponent : Int) :
    (withExponent digits exponent).isDecimal = true :=
  Bool.or_true _

/-- The size of a finite number is zero or what reads back as the number. -/
def DenotesSize (text : NumberText) (parts : Binary64.Finite) : Prop :=
  if parts.mantissa = 0 then text.size = 0 else parts.quarters.Reach text.size

/-- A literal denotes a floating-point number: it has a point or an exponent, and sign and size are
those of the number. -/
def DenotesFloat (text : NumberText) (x : Float) : Prop :=
  text.isDecimal = true ∧ ∃ parts, Binary64.finite? x = some parts ∧
    text.negative = parts.negative ∧ text.DenotesSize parts

/-- The characters of a decimal. -/
def numeralChars (n : Decimal.Numeral) : List Char :=
  let digits := Nat.toDigits 10 n.digits
  let exponent := n.exponent + digits.length - 1
  if floatStyle.positional exponent then Decimal.withPoint true digits (exponent + 1)
  else Decimal.withExponent digits exponent

/-- The characters of a decimal other than zero are those of a literal of the same size. -/
theorem exists_literal {n : Decimal.Numeral} (positive : n.digits ≠ 0) :
    ∃ text : NumberText, text.IsGrammatical ∧ text.sizeChars = numeralChars n ∧
      text.isDecimal = true ∧ text.size = n.value := by
  have row := areDigits_toDigits n.digits
  have head := head?_toDigits_ne positive
  have value := Text.digitsValue_toDigits n.digits
  unfold numeralChars Decimal.Numeral.value
  generalize Nat.toDigits 10 n.digits = digits at row head value ⊢
  rw [← value]
  simp only
  split
  · refine ⟨withPoint digits (n.exponent + digits.length - 1 + 1),
      isGrammatical_withPoint row head _, sizeChars_withPoint _ _, isDecimal_withPoint _ _, ?_⟩
    rw [size_withPoint]
    congr 2
    omega
  · refine ⟨withExponent digits (n.exponent + digits.length - 1),
      isGrammatical_withExponent row head _, sizeChars_withExponent _ _,
      isDecimal_withExponent _ _, ?_⟩
    rw [size_withExponent row.1]
    congr 2
    omega

/-- The characters that the size of a finite number is written with are those of a literal that
denotes it. -/
theorem exists_denotesSize {parts : Binary64.Finite} (proper : parts.IsProper) :
    ∃ text : NumberText, text.IsGrammatical ∧ text.sizeChars = floatStyle.size parts ∧
      text.isDecimal = true ∧ text.DenotesSize parts := by
  by_cases zero : parts.mantissa = 0
  · refine ⟨⟨false, ['0'], some ['0'], none⟩, ⟨⟨by simp, by simp⟩, .inl rfl, ?_, ?_⟩,
      (if_pos zero).symm, rfl, ?_⟩
    · rintro _ ⟨⟩
      exact ⟨by simp, by simp⟩
    · rintro _ _ ⟨⟩
    · rw [DenotesSize, if_pos zero]
      exact zero_mul _
  · have reach := proper.reach_shortest zero .toEven
    have positive : (parts.quarters.shortest .toEven).digits ≠ 0 := by
      intro none
      have value := Binary64.Finite.reach_pos zero reach
      simp [Decimal.Numeral.value, none] at value
    obtain ⟨text, grammatical, written, decimal, size⟩ := exists_literal positive
    refine ⟨text, grammatical, written.trans (if_neg zero).symm, decimal, ?_⟩
    rw [DenotesSize, if_neg zero, size]
    exact reach

/-- A finite number is written as a literal that denotes it. -/
theorem exists_denotesFloat {x : Float} (finite : x.isFinite = true) :
    ∃ text : NumberText, text.IsGrammatical ∧ (floatText x).toList = text.chars ∧
      text.DenotesFloat x := by
  obtain ⟨parts, found⟩ := Binary64.exists_finite? finite
  obtain ⟨text, grammatical, written, decimal, size⟩ :=
    exists_denotesSize (Binary64.isProper_of_finite? found)
  refine ⟨{ text with negative := parts.negative },
    ⟨grammatical.whole, grammatical.whole_zero, grammatical.fraction, grammatical.exponent⟩, ?_,
    decimal, parts, found, rfl, size⟩
  rw [floatText, if_pos finite, Decimal.Style.write, found]
  simp only [String.toList_ofList, ← written]
  rfl

/-- A literal denotes the size of one number only. -/
theorem DenotesSize.unique {text : NumberText} {parts others : Binary64.Finite}
    (first : text.DenotesSize parts) (second : text.DenotesSize others) (proper : parts.IsProper)
    (properToo : others.IsProper) :
    parts.mantissa = others.mantissa ∧ parts.exponent = others.exponent := by
  unfold DenotesSize at first second
  split at first
  · next zero =>
    split at second
    · next zeroToo =>
      -- A zero has the least exponent.
      have full := proper.full
      have fullToo := properToo.full
      have least := proper.least_le
      have leastToo := properToo.least_le
      exact ⟨zero.trans zeroToo.symm, by omega⟩
    · next nonzero => exact absurd first (Binary64.Finite.reach_pos nonzero second).ne'
  · next nonzero =>
    split at second
    · exact absurd second (Binary64.Finite.reach_pos nonzero first).ne'
    · exact Binary64.Finite.eq_of_reach proper properToo first second

/-- A literal denotes one floating-point number at most. -/
theorem DenotesFloat.unique {text : NumberText} {x y : Float} (first : text.DenotesFloat x)
    (second : text.DenotesFloat y) : x = y := by
  obtain ⟨-, parts, found, sign, size⟩ := first
  obtain ⟨-, others, foundToo, signToo, sizeToo⟩ := second
  obtain ⟨mantissa, exponent⟩ := size.unique sizeToo (Binary64.isProper_of_finite? found)
    (Binary64.isProper_of_finite? foundToo)
  have same : parts = others := by
    obtain ⟨negative, m, e⟩ := parts
    obtain ⟨negativeToo, n, f⟩ := others
    simp only [Binary64.Finite.mk.injEq]
    exact ⟨sign.symm.trans signToo, mantissa, exponent⟩
  exact Binary64.eq_of_finite? found (same ▸ foundToo)

end NumberText

end Json

end SqlLowering
