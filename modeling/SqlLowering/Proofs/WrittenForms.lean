import Mathlib.Algebra.Ring.Nat
import SqlLowering.Calendar.Timestamp
import SqlLowering.Uuid

/-!
# Written forms read back

Days, moments and identifiers are read back from their written forms. The readers are more generous
than the writers: they skip white space and take fewer digits than are written. What the writers
produce begins with no white space, and a number is written with as many digits as its reader takes
at most, or with something behind it that is no digit; so nothing is skipped and nothing is left.
-/

namespace SqlLowering

/-- A list is read back when each of its items is. -/
theorem mapM_map_eq_some {α β : Type} {write : α → β} {read : β → Option α} {items : List α}
    (back : ∀ item ∈ items, read (write item) = some item) :
    (items.map write).mapM read = some items := by
  induction items with
  | nil => rfl
  | cons item items ih =>
    have first := back item List.mem_cons_self
    have others := ih fun other member => back other (List.mem_cons_of_mem _ member)
    rw [List.map_cons, List.mapM_cons, first, others]
    rfl

namespace Text

/-! ## Rows of digits -/

theorem digitsValue_toDigits (n : Nat) : digitsValue (Nat.toDigits 10 n) = n :=
  Nat.ofDigitChars_ten_toDigits

theorem digitsValue_append (first second : List Char) :
    digitsValue (first ++ second) =
      10 ^ second.length * digitsValue first + digitsValue second :=
  (Nat.ofDigitChars_append 0).trans Nat.ofDigitChars_eq_ofDigitChars_zero

theorem digitsValue_replicate (count : Nat) : digitsValue (List.replicate count '0') = 0 :=
  Nat.ofDigitChars_replicate_zero.trans (Nat.mul_zero _)

/-- Zeros in front do not count. -/
theorem digitsValue_replicate_append (count : Nat) (digits : List Char) :
    digitsValue (List.replicate count '0' ++ digits) = digitsValue digits := by
  rw [digitsValue_append, digitsValue_replicate, Nat.mul_zero, Nat.zero_add]

/-- Digits are taken up to the limit or to the first character that is none. -/
theorem takeDigits_append {limit : Nat} {digits rest : List Char}
    (all : ∀ c ∈ digits, c.isDigit = true) (fits : digits.length ≤ limit)
    (stops : digits.length = limit ∨ ∀ c ∈ rest.head?, c.isDigit = false) :
    takeDigits limit (digits ++ rest) = (digits, rest) := by
  induction digits generalizing limit with
  | nil =>
    rw [List.nil_append]
    unfold takeDigits
    split
    next limit c rest =>
      rcases stops with full | stops
      · cases full
      · rw [stops c (by simp)]
        rfl
    · rfl
  | cons c digits ih =>
    obtain ⟨limit, rfl⟩ : ∃ less, limit = less + 1 := ⟨limit - 1, by simp at fits; omega⟩
    have digit : c.isDigit = true := all c List.mem_cons_self
    have others := ih (fun d member => all d (List.mem_cons_of_mem _ member))
      (by simpa using fits) (by simpa using stops)
    rw [List.cons_append, takeDigits, if_pos digit, others]

theorem isBlank_of_isDigit {c : Char} (digit : c.isDigit = true) : isBlank c = false := by
  have bounds : 48 ≤ c.toNat ∧ c.toNat ≤ 57 := by
    simp only [Char.isDigit, Bool.and_eq_true, decide_eq_true_eq] at digit
    exact digit
  simp [isBlank, inRanges, blankRanges]
  omega

theorem skipBlanks_of_isDigit {c : Char} (digit : c.isDigit = true) (rest : List Char) :
    skipBlanks (c :: rest) = c :: rest :=
  List.dropWhile_cons_of_neg (by simp [isBlank_of_isDigit digit])

/-! ## Padded numbers -/

theorem toList_padded (width n : Nat) :
    (padded width n).toList =
      List.replicate (width - (Nat.toDigits 10 n).length) '0' ++ Nat.toDigits 10 n := by
  simp [padded]

theorem isDigit_of_mem_padded {width n : Nat} {c : Char} (member : c ∈ (padded width n).toList) :
    c.isDigit = true := by
  rw [toList_padded] at member
  rcases List.mem_append.1 member with zero | digit
  · rw [(List.mem_replicate.1 zero).2]
    rfl
  · exact Nat.isDigit_of_mem_toDigits (by decide) (by decide) digit

theorem digitsValue_padded (width n : Nat) : digitsValue (padded width n).toList = n := by
  rw [toList_padded, digitsValue_replicate_append, digitsValue_toDigits]

theorem length_padded {width n : Nat} (positive : 0 < width) (fits : n < 10 ^ width) :
    (padded width n).toList.length = width := by
  have short := (Nat.length_toDigits_le_iff (by decide) positive).2 fits
  rw [toList_padded, List.length_append, List.length_replicate]
  omega

/-- A padded number has a digit, and begins with it. -/
theorem exists_padded_cons (width n : Nat) :
    ∃ c rest, (padded width n).toList = c :: rest ∧ c.isDigit = true := by
  have some : (padded width n).toList ≠ [] := by
    simp [toList_padded, Nat.toDigits_ne_nil]
  obtain ⟨c, rest, written⟩ := List.exists_cons_of_ne_nil some
  exact ⟨c, rest, written, isDigit_of_mem_padded (written ▸ List.mem_cons_self)⟩

end Text

namespace Calendar

open Text

variable {rest : List Char}

/-! ## Numbers, days and moments -/

theorem readNumber_padded {limit n : Nat} (positive : 0 < limit) (fits : n < 10 ^ limit) :
    readNumber limit ((padded limit n).toList ++ rest) = some (n, rest) := by
  have full := length_padded positive fits
  have taken : takeDigits limit ((padded limit n).toList ++ rest) =
      ((padded limit n).toList, rest) :=
    takeDigits_append (fun _ => isDigit_of_mem_padded) (Nat.le_of_eq full) (.inl full)
  have value := digitsValue_padded limit n
  obtain ⟨c, digits, written, digit⟩ := exists_padded_cons limit n
  rw [written] at taken value ⊢
  rw [readNumber, List.cons_append, skipBlanks_of_isDigit digit, ← List.cons_append, taken]
  simp only [value]

/-- All digits up to something that is no digit. -/
theorem readDigits_padded {width n : Nat} (stops : ∀ c ∈ rest.head?, c.isDigit = false) :
    readDigits ((padded width n).toList ++ rest) = some (n, rest) := by
  have taken : takeDigits ((padded width n).toList ++ rest).length
      ((padded width n).toList ++ rest) = ((padded width n).toList, rest) :=
    takeDigits_append (fun _ => isDigit_of_mem_padded) (by simp) (.inr stops)
  have value := digitsValue_padded width n
  obtain ⟨c, digits, written, -⟩ := exists_padded_cons width n
  rw [written] at taken value ⊢
  rw [readDigits, taken]
  simp only [value]

theorem readYear_minus (text : List Char) :
    readYear ('-' :: text) = (readDigits text).map fun (n, rest) => (-(n : Int), rest) := by
  rw [readYear, skipBlanks, List.dropWhile_cons_of_neg (by decide)]
  rfl

theorem readYear_plus (text : List Char) :
    readYear ('+' :: text) = (readDigits text).map fun (n, rest) => ((n : Int), rest) := by
  rw [readYear, skipBlanks, List.dropWhile_cons_of_neg (by decide)]
  rfl

/-- A digit is neither of the two signs. -/
theorem readYear_of_isDigit {c : Char} (digit : c.isDigit = true) (text : List Char) :
    readYear (c :: text) = (readNumber 4 (c :: text)).map fun (n, rest) => ((n : Int), rest) := by
  rw [readYear, skipBlanks_of_isDigit digit]
  split
  · next same => cases same; cases digit
  · next same => cases same; cases digit
  · rfl

/-- A year is read back from its text, with a sign or without. -/
theorem readYear_yearText (year : Int) (stops : ∀ c ∈ rest.head?, c.isDigit = false) :
    readYear ((Date.yearText year).toList ++ rest) = some (year, rest) := by
  have digits : readDigits ((padded 4 year.natAbs).toList ++ rest) = some (year.natAbs, rest) :=
    readDigits_padded stops
  unfold Date.yearText
  split
  · next before =>
    have sign : (-(year.natAbs : Int)) = year := by omega
    rw [String.toList_append, List.append_assoc, show "-".toList = ['-'] from rfl,
      List.singleton_append]
    simp only [readYear_minus, digits, Option.map_some, sign]
  · next notBefore =>
    have value : (year.natAbs : Int) = year := by omega
    split
    · rw [String.toList_append, List.append_assoc, show "+".toList = ['+'] from rfl,
        List.singleton_append]
      simp only [readYear_plus, digits, Option.map_some, value]
    · have number : readNumber 4 ((padded 4 year.natAbs).toList ++ rest) =
          some (year.natAbs, rest) := readNumber_padded (by decide) (by omega)
      obtain ⟨c, others, written, digit⟩ := exists_padded_cons 4 year.natAbs
      rw [written, List.cons_append] at number ⊢
      simp only [readYear_of_isDigit digit, number, Option.map_some, value]

theorem daysIn_le (year : Int) (month : Nat) : daysIn year month ≤ 31 := by
  unfold daysIn
  split
  · split <;> decide
  · split <;> decide

theorem Date.of?_parts (date : Date) : Date.of? date.year date.month date.day = some date :=
  dif_pos ⟨date.year_range, date.month_range, date.day_range⟩

theorem readDate_toString (date : Date) :
    readDate (date.toString.toList ++ rest) = some (date, rest) := by
  have monthRange := date.month_range
  have dayRange := date.day_range
  have days := daysIn_le date.year date.month
  have month (more : List Char) :
      readNumber 2 ((padded 2 date.month).toList ++ more) = some (date.month, more) :=
    readNumber_padded (by decide) (by omega)
  have day (more : List Char) :
      readNumber 2 ((padded 2 date.day).toList ++ more) = some (date.day, more) :=
    readNumber_padded (by decide) (by omega)
  simp only [Date.toString, String.toList_append, List.append_assoc]
  rw [readDate, readYear_yearText _ (by simp)]
  simp [readChar, month, day, Date.of?_parts]

theorem Date.ofString?_toString (date : Date) : Date.ofString? date.toString = some date := by
  have read : readDate (date.toString.toList ++ []) = some (date, []) := readDate_toString date
  rw [List.append_nil] at read
  rw [Date.ofString?, read]

/-- A fraction of at most nine digits, at the end of a text. -/
theorem readFraction_padded {width n : Nat} (positive : 0 < width) (short : width ≤ 9)
    (fits : n < 10 ^ width) :
    readFraction ('.' :: (padded width n).toList) = some (n * 10 ^ (9 - width), []) := by
  have full := length_padded positive fits
  have taken : takeDigits (padded width n).toList.length ((padded width n).toList ++ []) =
      ((padded width n).toList, []) :=
    takeDigits_append (fun _ => isDigit_of_mem_padded) (Nat.le_refl _) (.inl rfl)
  have kept : (padded width n).toList.take 9 = (padded width n).toList :=
    List.take_of_length_le (by omega)
  have value := digitsValue_padded width n
  obtain ⟨c, digits, written, -⟩ := exists_padded_cons width n
  rw [List.append_nil] at taken
  rw [written] at full taken kept value ⊢
  rw [readFraction, taken]
  simp only [kept, value, full]
  rfl

/-- A fraction of a second is read back from its text. -/
theorem readFraction_fractionText {nanosecond : Nat} (range : nanosecond < 1000000000) :
    readFraction (Time.fractionText nanosecond).toList = some (nanosecond, []) := by
  unfold Time.fractionText
  split
  · next none => rw [none]; rfl
  · split
    · next whole =>
      rw [String.toList_append]
      refine (readFraction_padded (by decide) (by decide) (by omega)).trans ?_
      simp only [Option.some.injEq, Prod.mk.injEq, and_true]
      omega
    · split
      · next whole =>
        rw [String.toList_append]
        refine (readFraction_padded (by decide) (by decide) (by omega)).trans ?_
        simp only [Option.some.injEq, Prod.mk.injEq, and_true]
        omega
      · rw [String.toList_append]
        refine (readFraction_padded (by decide) (by decide) range).trans ?_
        simp

theorem Time.of?_parts (time : Time) :
    Time.of? time.hour time.minute time.second time.nanosecond = some time :=
  dif_pos ⟨time.hour_lt, time.minute_lt, time.second_le, time.nanosecond_lt⟩

/-- A moment of a day is read back from its text. -/
theorem readTime_toString (time : Time) : readTime time.toString.toList = some (time, []) := by
  have hours := time.hour_lt
  have minutes := time.minute_lt
  -- The leap second is the second sixty.
  have seconds := time.second_le
  have hour (more : List Char) :
      readNumber 2 ((padded 2 time.hour).toList ++ more) = some (time.hour, more) :=
    readNumber_padded (by decide) (by omega)
  have minute (more : List Char) :
      readNumber 2 ((padded 2 time.minute).toList ++ more) = some (time.minute, more) :=
    readNumber_padded (by decide) (by omega)
  have second (more : List Char) :
      readNumber 2 ((padded 2 time.second).toList ++ more) = some (time.second, more) :=
    readNumber_padded (by decide) (by omega)
  have fraction := readFraction_fractionText time.nanosecond_lt
  simp only [Time.toString, String.toList_append, List.append_assoc]
  simp [readTime, readChar, hour, minute, second, fraction, Time.of?_parts]

theorem Timestamp.ofWritten?_toString (t : Timestamp) :
    Timestamp.ofWritten? t.toString = some t := by
  simp only [Timestamp.ofWritten?, Timestamp.toString, String.toList_append, List.append_assoc]
  rw [readTimestamp, readDate_toString]
  simp [readChar, readTime_toString]

end Calendar

namespace Uuid

/-! ## Identifiers -/

theorem hexDigit?_hexDigit :
    ∀ digit : Fin 16, Text.hexDigit? (Text.hexDigit digit) = some digit := by
  decide

/-- Taking out the hyphens undoes putting them in. -/
theorem plainDigits?_hyphenated {a b c d e : List Char} (ha : a.length = 8) (hb : b.length = 4)
    (hc : c.length = 4) (hd : d.length = 4) (he : e.length = 12) :
    plainDigits? (a ++ '-' :: b ++ '-' :: c ++ '-' :: d ++ '-' :: e) =
      some (a ++ b ++ c ++ d ++ e) := by
  have length : (a ++ '-' :: b ++ '-' :: c ++ '-' :: d ++ '-' :: e).length = 36 := by simp [*]
  have hyphens : withoutHyphens? (a ++ '-' :: b ++ '-' :: c ++ '-' :: d ++ '-' :: e) =
      some (a ++ b ++ c ++ d ++ e) := by
    rw [withoutHyphens?, if_pos]
    · simp [List.drop_append, *, List.drop_eq_nil_of_le]
    · simp [*]
  simp only [plainDigits?, length, hyphens]
  rfl

/-- The five groups make up the whole. -/
theorem groups_append (chars : List Char) :
    chars.take 8 ++ (chars.drop 8).take 4 ++ (chars.drop 12).take 4 ++ (chars.drop 16).take 4 ++
      chars.drop 20 = chars := by
  have group (start : Nat) :
      (chars.drop start).take 4 ++ chars.drop (start + 4) = chars.drop start := by
    rw [← List.drop_drop, List.take_append_drop]
  simp only [List.append_assoc, group, List.take_append_drop]

theorem ofString?_toString (u : Uuid) : ofString? u.toString = some u := by
  have length := u.length_digits
  have digits : (u.digits.map Text.hexDigit).mapM Text.hexDigit? = some u.digits :=
    mapM_map_eq_some fun digit _ => hexDigit?_hexDigit digit
  rw [ofString?, Uuid.toString, String.toList_ofList, plainDigits?_hyphenated, groups_append]
  · rw [Option.bind_eq_bind, Option.bind_some, digits]
    exact dif_pos length
  all_goals simp [length]

end Uuid

end SqlLowering
