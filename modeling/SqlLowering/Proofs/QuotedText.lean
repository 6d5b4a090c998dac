import SqlLowering.Proofs.Unambiguity
import SqlLowering.Proofs.WrittenForms

/-!
# Dashes outside of names and literals

Two dashes open a comment, except in a name in brackets and in a literal in quotes.
`Text.opensComment` reads a text from the left and says whether it opens one. Texts can be put
together if each of them closes what it opens and ends without a dash (`Text.Plain`). Names and
literals are plain whatever they hold; of the literals, only negative numbers begin with a dash.
-/

namespace SqlLowering

namespace Text

/-! ## Reading SQL -/

/-- Where the reading of a text stands. -/
inductive Mode where
  /-- Outside of names and literals, directly behind a dash or not. -/
  | outside (dash : Bool)
  | name
  | literal
deriving DecidableEq, Repr

/-- The mode behind a character, unless the character opens a comment. A closing mark that stands
outside is the second one of two that stand for one, so it leads back inside. -/
def Mode.next? : Mode → Char → Option Mode
  | .outside dash, c =>
    if c = '-' then if dash then none else some (.outside true)
    else if c = '[' ∨ c = ']' then some .name
    else if c = singleQuote then some .literal
    else some (.outside false)
  | .name, c => some (if c = ']' then .outside false else .name)
  | .literal, c => some (if c = singleQuote then .outside false else .literal)

/-- The mode behind a text, unless the text opens a comment. -/
def scan : Mode → List Char → Option Mode
  | mode, [] => some mode
  | mode, c :: rest => (mode.next? c).bind (scan · rest)

/-- Whether a text has two dashes in a row outside of its names and literals. -/
def opensComment (text : String) : Bool :=
  (scan (.outside false) text.toList).isNone

/-- Whether a text closes all names and literals that it opens. -/
def isClosed (text : String) : Bool :=
  scan (.outside false) text.toList = some (.outside false)

theorem scan_append (mode : Mode) (first second : List Char) :
    scan mode (first ++ second) = (scan mode first).bind (scan · second) := by
  induction first generalizing mode with
  | nil => rfl
  | cons c rest ih =>
    rw [List.cons_append, scan, scan, Option.bind_assoc]
    exact congrArg _ (funext fun next => ih next)

/-- A text that can stand anywhere outside, also behind a dash, and leaves nothing open. -/
def Plain (text : List Char) : Prop :=
  ∀ dash, scan (.outside dash) text = some (.outside false)

theorem plain_iff {text : List Char} :
    Plain text ↔ scan (.outside false) text = some (.outside false) ∧
      scan (.outside true) text = some (.outside false) := by
  rw [Plain, Bool.forall_bool]

instance (text : List Char) : Decidable (Plain text) :=
  decidable_of_iff _ plain_iff.symm

theorem Plain.append {first second : List Char} (plain : Plain first) (plain' : Plain second) :
    Plain (first ++ second) := by
  intro dash
  rw [scan_append, plain dash]
  exact plain' false

/-! ## Ordinary characters -/

/-- A character that is neither a dash nor a mark around names or literals. -/
def isOrdinary (c : Char) : Bool :=
  c ≠ '-' && c ≠ '[' && c ≠ ']' && c ≠ singleQuote

theorem next?_of_isOrdinary {c : Char} (ordinary : isOrdinary c = true) (dash : Bool) :
    (Mode.outside dash).next? c = some (.outside false) := by
  simp only [isOrdinary, Bool.and_eq_true, decide_eq_true_eq] at ordinary
  obtain ⟨⟨⟨noDash, noOpening⟩, noClosing⟩, noQuote⟩ := ordinary
  rw [Mode.next?, if_neg noDash, if_neg (not_or.2 ⟨noOpening, noClosing⟩), if_neg noQuote]

theorem scan_of_isOrdinary {text : List Char} (ordinary : ∀ c ∈ text, isOrdinary c = true)
    (dash : Bool) : scan (.outside dash) text = some (.outside (dash && text.isEmpty)) := by
  induction text generalizing dash with
  | nil => rw [scan, List.isEmpty_nil, Bool.and_true]
  | cons c rest ih =>
    rw [List.forall_mem_cons] at ordinary
    rw [scan, next?_of_isOrdinary ordinary.1, Option.bind_some, ih ordinary.2,
      List.isEmpty_cons, Bool.and_false, Bool.false_and]

theorem plain_of_isOrdinary {text : List Char} (nonempty : text ≠ [])
    (ordinary : ∀ c ∈ text, isOrdinary c = true) : Plain text := by
  intro dash
  rw [scan_of_isOrdinary ordinary, List.isEmpty_eq_false_iff.2 nonempty, Bool.and_false]

theorem isOrdinary_of_isDigit {c : Char} (digit : c.isDigit = true) : isOrdinary c = true := by
  simp only [isOrdinary, Bool.and_eq_true, decide_eq_true_eq]
  refine ⟨⟨⟨?_, ?_⟩, ?_⟩, ?_⟩ <;> rintro rfl <;> cases digit

/-- The decimal digits of a number. -/
theorem plain_toDigits (n : Nat) : Plain (Nat.toDigits 10 n) :=
  plain_of_isOrdinary Nat.toDigits_ne_nil fun _ member =>
    isOrdinary_of_isDigit (Nat.isDigit_of_mem_toDigits (by decide) (by decide) member)

theorem next?_of_ne_dash {c : Char} (other : c ≠ '-') (dash dash' : Bool) :
    (Mode.outside dash).next? c = (Mode.outside dash').next? c := by
  rw [Mode.next?, Mode.next?, if_neg other, if_neg other]

/-- A text without dashes that closes what it opens can stand in front of a plain one. -/
theorem Plain.behind {text rest : List Char} (noDash : '-' ∉ text)
    (closed : scan (.outside false) text = some (.outside false)) (plain : Plain rest) :
    Plain (text ++ rest) := by
  intro dash
  cases text with
  | nil => exact plain dash
  | cons c others =>
    have other : c ≠ '-' := by
      rintro rfl
      exact noDash List.mem_cons_self
    rw [scan] at closed
    rw [scan_append, scan, next?_of_ne_dash other dash false, closed]
    exact plain false

/-- Whether a text closes what it opens does not depend on a dash in front, if it opens no
comment. -/
theorem scan_eq_none_or_outside {dash after : Bool} {text : List Char}
    (scanned : scan (.outside dash) text = some (.outside after)) (dash' : Bool) :
    scan (.outside dash') text = none ∨
      ∃ after', scan (.outside dash') text = some (.outside after') := by
  cases text with
  | nil => exact .inr ⟨dash', rfl⟩
  | cons c rest =>
    by_cases minus : c = '-'
    · subst minus
      cases dash with
      | true => cases scanned
      | false =>
        cases dash' with
        | true => exact .inl rfl
        | false => exact .inr ⟨after, scanned⟩
    · rw [scan, next?_of_ne_dash minus dash dash'] at scanned
      exact .inr ⟨after, scanned⟩

/-! ## Names and literals -/

/-- Text with its closing mark doubled is read as one, whatever it is. -/
theorem scan_doubling {inside : Mode} {mark : Char}
    (leaves : inside.next? mark = some (.outside false))
    (stays : ∀ c, c ≠ mark → inside.next? c = some inside)
    (returns : (Mode.outside false).next? mark = some inside) (text : List Char) :
    scan inside (doubling mark text ++ [mark]) = some (.outside false) := by
  induction text with
  | nil => rw [doubling, List.nil_append, scan, leaves, Option.bind_some, scan]
  | cons c rest ih =>
    rw [doubling]
    split
    · rw [List.cons_append, List.cons_append, scan, leaves, Option.bind_some, scan, returns,
        Option.bind_some, ih]
    next other => rw [List.cons_append, scan, stays c other, Option.bind_some, ih]

theorem scan_name (name : List Char) :
    scan .name (doubling ']' name ++ [']']) = some (.outside false) :=
  scan_doubling rfl (fun _ other => by rw [Mode.next?, if_neg other]) rfl name

theorem scan_literal (text : List Char) :
    scan .literal (doubling singleQuote text ++ [singleQuote]) = some (.outside false) :=
  scan_doubling rfl (fun _ other => by rw [Mode.next?, if_neg other]) rfl text

theorem plain_quoteIdentifier (name : String) :
    Plain (Dialect.sqlServer.quoteIdentifier name).toList := by
  intro dash
  rw [toList_quoteIdentifier, scan]
  exact scan_name name.toList

theorem plain_literal (text : List Char) :
    Plain (singleQuote :: (doubling singleQuote text ++ [singleQuote])) :=
  fun _ => scan_literal text

theorem doubling_of_notMem {mark : Char} {text : List Char} (notMem : mark ∉ text) :
    doubling mark text = text := by
  induction text with
  | nil => rfl
  | cons c rest ih =>
    rw [List.mem_cons, not_or] at notMem
    rw [doubling, if_neg (Ne.symm notMem.1), ih notMem.2]

/-- A text without quotes, between quotes. -/
theorem plain_between_quotes {text : String} (noQuote : singleQuote ∉ text.toList) :
    Plain ("'" ++ text ++ "'").toList := by
  have plain := plain_literal text.toList
  rw [doubling_of_notMem noQuote] at plain
  simpa [singleQuote] using plain

end Text

/-! ## Literals of values -/

section Literals

open Text

/-- Whether the literal of a value begins with a minus. -/
def Value.hasMinus : Value → Bool
  | .int i => decide (i.toInt < 0)
  | .float x =>
    match Binary64.finite? x with
    | some finite => finite.negative
    | none => !x.isNaN && decide (x < 0.0)
  | _ => false

/-- A plain text with a minus in front of it or not. -/
def Text.Signed (minus : Bool) (text : List Char) : Prop :=
  ∃ size, text = (if minus then ['-'] else []) ++ size ∧ Plain size

theorem Text.Plain.signed {text : List Char} (plain : Plain text) : Signed false text :=
  ⟨text, rfl, plain⟩

/-- A signed text can stand behind anything but a dash, and behind a dash if it has no minus. -/
theorem Text.Signed.scan {minus : Bool} {text : List Char} (signed : Signed minus text)
    {dash : Bool} (apart : dash = true → minus = false) :
    Text.scan (.outside dash) text = some (.outside false) := by
  obtain ⟨size, rfl, plain⟩ := signed
  cases minus with
  | false => exact plain dash
  | true =>
    cases dash with
    | false => exact plain true
    | true => cases apart rfl

theorem signed_toString_int (i : Int) : Signed (decide (i < 0)) (toString i).toList := by
  cases i with
  | ofNat n =>
    refine ⟨_, ?_, plain_toDigits n⟩
    have written : toString (Int.ofNat n) = toString n := rfl
    rw [written]
    simp
  | negSucc n =>
    refine ⟨_, ?_, plain_toDigits (n + 1)⟩
    have written : toString (Int.negSucc n) = "-" ++ toString (n + 1) := rfl
    rw [written]
    simp

/-- Digits with a point among them. -/
theorem plain_withPoint {digits : List Char} (nonempty : digits ≠ [])
    (numeric : ∀ c ∈ digits, c.isDigit = true) (whole : Int) :
    Plain (Decimal.withPoint false digits whole) := by
  have ordinary (c : Char) (member : c ∈ digits) : isOrdinary c = true :=
    isOrdinary_of_isDigit (numeric c member)
  have zeros (count : Nat) : ∀ c ∈ List.replicate count '0', isOrdinary c = true := by
    intro c member
    rw [(List.mem_replicate.1 member).2]
    rfl
  unfold Decimal.withPoint
  split
  · refine plain_of_isOrdinary (by simp) ?_
    simp only [List.forall_mem_append]
    exact ⟨⟨List.all_eq_true.1 (by decide), zeros _⟩, ordinary⟩
  · split
    · refine plain_of_isOrdinary (by simp [nonempty]) ?_
      simp only [List.forall_mem_append]
      exact ⟨⟨ordinary, zeros _⟩, nofun⟩
    · refine plain_of_isOrdinary (by simp) ?_
      rw [List.forall_mem_append, List.forall_mem_cons]
      exact ⟨fun c member => ordinary c (List.mem_of_mem_take member), rfl,
        fun c member => ordinary c (List.mem_of_mem_drop member)⟩

theorem plain_floatSize (x : Binary64.Finite) : Plain (Value.floatStyle.size x) := by
  unfold Decimal.Style.size
  split
  · exact plain_withPoint (by simp) (List.all_eq_true.1 (by decide)) 1
  · exact plain_withPoint Nat.toDigits_ne_nil
      (fun _ => Nat.isDigit_of_mem_toDigits (by decide) (by decide)) _

theorem signed_float (x : Float) : Signed (Value.float x).hasMinus (Value.float x).text.toList := by
  rw [Value.text, Decimal.Style.write, Value.hasMinus]
  cases Binary64.finite? x with
  | some finite =>
    refine ⟨Value.floatStyle.size finite, ?_, plain_floatSize finite⟩
    by_cases negative : finite.negative = true <;> simp [negative]
  | none =>
    dsimp only
    cases x.isNaN with
    | true => exact ⟨"NaN".toList, rfl, by decide⟩
    | false =>
      refine ⟨"inf".toList, ?_, by decide⟩
      by_cases negative : x < 0.0 <;> simp [negative, Value.floatStyle]

/-- The digits of bytes can stand anywhere. -/
theorem plain_bytes (content : List UInt8) : Plain (Value.bytes content).text.toList := by
  have digit : ∀ n, n < 16 → isOrdinary (Nat.digitChar n).toUpper = true := by decide
  have byte (b : UInt8) : ∀ c ∈ (Value.byteText b).toList, isOrdinary c = true := by
    have upper : b.toNat / 16 < 16 := by
      have := b.toNat_lt
      omega
    simp [Value.byteText, digit _ upper, digit _ (Nat.mod_lt b.toNat (by decide))]
  refine plain_of_isOrdinary (by simp [Value.text]) ?_
  rw [Value.text, String.toList_append, List.forall_mem_append]
  refine ⟨List.all_eq_true.1 (by decide), ?_⟩
  induction content with
  | nil => simp
  | cons b rest ih =>
    rw [List.map_cons, String.join_cons, String.toList_append, List.forall_mem_append]
    exact ⟨byte b, ih⟩

theorem singleQuote_notMem_padded (width n : Nat) : singleQuote ∉ (padded width n).toList :=
  fun member => by cases isDigit_of_mem_padded member

theorem singleQuote_notMem_date (d : Calendar.Date) : singleQuote ∉ d.toString.toList := by
  have number := singleQuote_notMem_padded
  have year : singleQuote ∉ (Calendar.Date.yearText d.year).toList := by
    unfold Calendar.Date.yearText
    split
    · simp only [String.toList_append, List.mem_append, not_or]
      exact ⟨by decide, number _ _⟩
    · split
      · simp only [String.toList_append, List.mem_append, not_or]
        exact ⟨by decide, number _ _⟩
      · exact number _ _
  simp only [Calendar.Date.toString, String.toList_append, List.mem_append, not_or]
  exact ⟨⟨⟨⟨year, by decide⟩, number _ _⟩, by decide⟩, number _ _⟩

/-- There is no quote in the text of a moment. -/
theorem singleQuote_notMem_timestamp (t : Calendar.Timestamp) :
    singleQuote ∉ t.toString.toList := by
  have number := singleQuote_notMem_padded
  have point (width n : Nat) : singleQuote ∉ ("." ++ padded width n).toList := by
    simp only [String.toList_append, List.mem_append, not_or]
    exact ⟨by decide, number _ _⟩
  have fraction : singleQuote ∉ (Calendar.Time.fractionText t.time.nanosecond).toList := by
    unfold Calendar.Time.fractionText
    split
    · decide
    · split
      · exact point _ _
      · split <;> exact point _ _
  simp only [Calendar.Timestamp.toString, Calendar.Time.toString, String.toList_append,
    List.mem_append, not_or]
  exact ⟨⟨singleQuote_notMem_date t.date, by decide⟩,
    ⟨⟨⟨⟨number _ _, by decide⟩, number _ _⟩, by decide⟩, number _ _⟩, fraction⟩

theorem singleQuote_notMem_uuid (u : Uuid) : singleQuote ∉ u.toString.toList := by
  have digit : ∀ d : Fin 16, hexDigit d ≠ singleQuote := by decide
  have digits : singleQuote ∉ u.digits.map hexDigit := by
    intro member
    obtain ⟨d, -, same⟩ := List.mem_map.1 member
    exact digit d same
  have noDash : singleQuote ≠ '-' := by decide
  have back (start : Nat) : singleQuote ∉ (u.digits.map hexDigit).drop start :=
    fun member => digits (List.mem_of_mem_drop member)
  have group (start count : Nat) : singleQuote ∉ ((u.digits.map hexDigit).drop start).take count :=
    fun member => back start (List.mem_of_mem_take member)
  simp only [Uuid.toString, String.toList_ofList, List.mem_append, List.mem_cons, not_or]
  exact ⟨⟨⟨⟨group 0 8, noDash, group 8 4⟩, noDash, group 12 4⟩, noDash, group 16 4⟩, noDash,
    back 20⟩

/-- The literal of a value is plain, but for the minus of a negative number. -/
theorem RenderContext.signed_of_literal {ctx : RenderContext} (dialect : ctx.dialect = .sqlServer)
    {value : Value} {sql : String} (literal : ctx.literal value = .ok sql) :
    Signed value.hasMinus sql.toList := by
  cases value with
  | null =>
    cases literal
    exact Plain.signed (by decide)
  | bool b =>
    cases literal
    cases b <;> exact Plain.signed (by decide)
  | int i =>
    cases literal
    exact signed_toString_int i.toInt
  | float x =>
    cases literal
    exact signed_float x
  | string s =>
    rw [RenderContext.literal, dialect] at literal
    cases literal
    have written : (Dialect.sqlServer.stringLiteral s).toList =
        ['N'] ++ singleQuote :: (doubling singleQuote s.toList ++ [singleQuote]) := by
      simp [Dialect.sqlServer, Text.quoted, singleQuote]
    rw [written]
    exact (Plain.append (by decide) (plain_literal s.toList)).signed
  | bytes content =>
    cases literal
    exact (plain_bytes content).signed
  | date d =>
    cases literal
    exact (plain_between_quotes (singleQuote_notMem_date d)).signed
  | timestamp t =>
    cases literal
    exact (plain_between_quotes (singleQuote_notMem_timestamp t)).signed
  | uuid u =>
    cases literal
    exact (plain_between_quotes (singleQuote_notMem_uuid u)).signed
  | array _ | record _ => cases literal

end Literals

end SqlLowering
