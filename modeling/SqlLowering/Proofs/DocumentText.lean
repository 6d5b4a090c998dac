import SqlLowering.Json.Parser
import SqlLowering.Proofs.NumberReading

/-!
# The text of a document identifies the document

The text of a document on one line is read as a written document that denotes it, whatever comes
behind, as long as that does not go on with a number. A written document denotes one document at
most, so documents of one text are equal. Of floating-point numbers only the finite ones have a text
of their own.
-/

namespace SqlLowering.Json

/-! ## Strings -/

/-- How a character is read inside a string: by its number when it is a control character without a
letter of its own. -/
def charPart (c : Char) : StringPart :=
  if c.toNat < 0x20 ∧ c ∉ ['\x08', '\x0c', '\n', '\r', '\t'] then .unit c.toNat else .char c

theorem unit?_control : ∀ n : Fin 32,
    unit? '0' '0' (Nat.digitChar (n.val / 16)) (Nat.digitChar (n.val % 16)) = some n.val := by
  decide

/-- A character is escaped by a letter or by its number, or stands for itself. -/
theorem escapeChar_cases (c : Char) :
    (∃ letter, (escapeChar c).toList = ['\\', letter] ∧ letter ≠ 'u' ∧ escape? letter = some c ∧
      charPart c = .char c) ∨
    ((escapeChar c).toList = ['\\', 'u', '0', '0', Nat.digitChar (c.toNat / 16),
      Nat.digitChar (c.toNat % 16)] ∧ c.toNat < 0x20 ∧ charPart c = .unit c.toNat) ∨
    ((escapeChar c).toList = [c] ∧ c ≠ '"' ∧ c ≠ '\\' ∧ 0x20 ≤ c.toNat ∧ charPart c = .char c) := by
  by_cases quote : c = '"'
  · subst quote
    exact .inl ⟨'"', rfl, by decide, rfl, rfl⟩
  by_cases backslash : c = '\\'
  · subst backslash
    exact .inl ⟨'\\', rfl, by decide, rfl, rfl⟩
  by_cases letter : c ∈ ['\x08', '\x0c', '\n', '\r', '\t']
  · simp only [List.mem_cons, List.not_mem_nil, or_false] at letter
    rcases letter with rfl | rfl | rfl | rfl | rfl
    · exact .inl ⟨'b', rfl, by decide, rfl, rfl⟩
    · exact .inl ⟨'f', rfl, by decide, rfl, rfl⟩
    · exact .inl ⟨'n', rfl, by decide, rfl, rfl⟩
    · exact .inl ⟨'r', rfl, by decide, rfl, rfl⟩
    · exact .inl ⟨'t', rfl, by decide, rfl, rfl⟩
  have others := letter
  simp only [List.mem_cons, List.not_mem_nil, or_false, not_or] at others
  unfold escapeChar charPart
  rw [if_neg quote, if_neg backslash, if_neg others.1, if_neg others.2.1, if_neg others.2.2.1,
    if_neg others.2.2.2.1, if_neg others.2.2.2.2]
  by_cases control : c.toNat < 0x20
  · rw [if_pos control, if_pos ⟨control, letter⟩]
    exact .inr (.inl ⟨by simp, control, rfl⟩)
  · rw [if_neg control, if_neg fun both => control both.1]
    exact .inr (.inr ⟨by simp, quote, backslash, by omega, rfl⟩)

/-- One escaped character is read as one part of a string, and the rest is read as before. -/
theorem readString_escapeChar (c : Char) (rest : List Char) :
    readString ((escapeChar c).toList ++ rest) =
      (readString rest).map fun (parts, rest) => (charPart c :: parts, rest) := by
  rcases escapeChar_cases c with ⟨letter, written, notUnit, read, part⟩ |
    ⟨written, control, part⟩ | ⟨written, quote, backslash, plain, part⟩
  · rw [written, part, List.cons_append, List.cons_append, List.nil_append, readString, read]
    · cases readString rest <;> rfl
    · exact fun _ _ _ _ _ unit _ => notUnit unit
  · have unit := unit?_control ⟨c.toNat, control⟩
    rw [written, part]
    simp only [List.cons_append, List.nil_append, readString]
    rw [unit]
    cases readString rest <;> rfl
  · rw [written, part, List.cons_append, List.nil_append, readString]
    · rw [if_neg (by omega)]
      cases readString rest <;> rfl
    · exact quote
    · exact fun _ _ _ _ _ same _ => backslash same
    · exact fun _ _ same _ => backslash same

/-- A string is read up to its closing quote. -/
theorem readString_escaped (chars rest : List Char) :
    readString (chars.flatMap (fun c => (escapeChar c).toList) ++ '"' :: rest) =
      some (chars.map charPart, rest) := by
  induction chars with
  | nil => rfl
  | cons c chars ih =>
    rw [List.flatMap_cons, List.append_assoc, readString_escapeChar, ih]
    rfl

theorem toList_stringText (s : String) :
    (stringText s).toList =
      '"' :: (s.toList.flatMap (fun c => (escapeChar c).toList) ++ ['"']) := by
  simp [stringText, List.flatMap_map]

/-- The part that a character is read as is decoded to the character. -/
theorem decodeString?_charPart (c : Char) (parts : List StringPart) :
    decodeString? (charPart c :: parts) = (decodeString? parts).map (c :: ·) := by
  unfold charPart
  split
  · next control =>
    have leading : isLeading c.toNat = false := by
      simp [isLeading]
      omega
    have trailing : isTrailing c.toNat = false := by
      simp [isTrailing]
      omega
    -- A control character is no half of a pair, whatever comes behind it.
    cases parts with
    | nil => simp [decodeString?, leading, trailing]
    | cons part parts =>
      cases part with
      | char d =>
        cases rest : decodeString? parts <;> simp [decodeString?, leading, trailing, rest]
      | unit n =>
        rw [decodeString?, leading, trailing]
        cases decodeString? (.unit n :: parts) <;> simp
  · cases rest : decodeString? parts <;> simp [decodeString?, rest]

theorem decodeString?_map_charPart (chars : List Char) :
    decodeString? (chars.map charPart) = some chars := by
  induction chars with
  | nil => rfl
  | cons c chars ih => rw [List.map_cons, decodeString?_charPart, ih, Option.map_some]

/-! ## Written documents and what they denote -/

mutual

/-- Whether all floating-point numbers of a document are finite. -/
def isFinite : Json → Bool
  | .float x => x.isFinite
  | .array items => areFinite items
  | .object members => areMembersFinite members
  | _ => true

/-- Whether all floating-point numbers of items are finite. -/
def areFinite : List Json → Bool
  | [] => true
  | item :: rest => item.isFinite && areFinite rest

/-- Whether all floating-point numbers of members are finite. -/
def areMembersFinite : List (String × Json) → Bool
  | [] => true
  | (_, value) :: rest => value.isFinite && areMembersFinite rest

end

mutual

/-- A document is what a written document says. -/
def DenotedBy : Json → Written → Prop
  | .null, .null => True
  | .bool b, .bool c => b = c
  | .int i, .number text => text.DenotesInt i
  | .float x, .number text => text.DenotesFloat x
  | .string s, .string parts => decodeString? parts = some s.toList
  | .array items, .array written => ItemsDenotedBy items written
  | .object members, .object written => MembersDenotedBy members written
  | _, _ => False

/-- Items are what written items say. -/
def ItemsDenotedBy : List Json → List Written → Prop
  | [], [] => True
  | item :: rest, written :: others => item.DenotedBy written ∧ ItemsDenotedBy rest others
  | _, _ => False

/-- Members are what written members say. -/
def MembersDenotedBy : List (String × Json) → List (List StringPart × Written) → Prop
  | [], [] => True
  | (name, value) :: rest, (parts, written) :: others =>
    decodeString? parts = some name.toList ∧ value.DenotedBy written ∧ MembersDenotedBy rest others
  | _, _ => False

end

theorem eq_of_decodeString? {parts : List StringPart} {s t : String}
    (first : decodeString? parts = some s.toList) (second : decodeString? parts = some t.toList) :
    s = t :=
  String.toList_inj.1 (Option.some.inj (first.symm.trans second))

/-- A literal without a point and an exponent is no floating-point number. -/
theorem not_denotesFloat_of_denotesInt {text : NumberText} {i : Int} {x : Float}
    (whole : text.DenotesInt i) : ¬ text.DenotesFloat x := by
  rintro ⟨decimal, -⟩
  simp [NumberText.isDecimal, whole.1, whole.2.1] at decimal

mutual

/-- A written document says one thing. -/
theorem DenotedBy.unique : ∀ {first second : Json} {written : Written},
    first.DenotedBy written → second.DenotedBy written → first = second
  | .null, second, written, left, right => by
    cases written <;> simp only [DenotedBy] at left
    cases second <;> simp only [DenotedBy] at right
    rfl
  | .bool b, second, written, left, right => by
    cases written <;> simp only [DenotedBy] at left
    cases second <;> simp only [DenotedBy] at right
    rw [left, right]
  | .int i, second, written, left, right => by
    cases written <;> simp only [DenotedBy] at left
    cases second <;> simp only [DenotedBy] at right
    · rw [left.2.2, right.2.2]
    · exact absurd right (not_denotesFloat_of_denotesInt left)
  | .float x, second, written, left, right => by
    cases written <;> simp only [DenotedBy] at left
    cases second <;> simp only [DenotedBy] at right
    · exact absurd left (not_denotesFloat_of_denotesInt right)
    · rw [left.unique right]
  | .string s, second, written, left, right => by
    cases written <;> simp only [DenotedBy] at left
    cases second <;> simp only [DenotedBy] at right
    rw [eq_of_decodeString? left right]
  | .array items, second, written, left, right => by
    cases written <;> simp only [DenotedBy] at left
    cases second <;> simp only [DenotedBy] at right
    rw [ItemsDenotedBy.unique left right]
  | .object members, second, written, left, right => by
    cases written <;> simp only [DenotedBy] at left
    cases second <;> simp only [DenotedBy] at right
    rw [MembersDenotedBy.unique left right]

theorem ItemsDenotedBy.unique : ∀ {first second : List Json} {written : List Written},
    ItemsDenotedBy first written → ItemsDenotedBy second written → first = second
  | [], second, written, left, right => by
    cases written <;> simp only [ItemsDenotedBy] at left
    cases second <;> simp only [ItemsDenotedBy] at right
    rfl
  | item :: rest, second, written, left, right => by
    cases written <;> simp only [ItemsDenotedBy] at left
    cases second <;> simp only [ItemsDenotedBy] at right
    rw [left.1.unique right.1, ItemsDenotedBy.unique left.2 right.2]

theorem MembersDenotedBy.unique : ∀ {first second : List (String × Json)}
    {written : List (List StringPart × Written)},
    MembersDenotedBy first written → MembersDenotedBy second written → first = second
  | [], second, written, left, right => by
    cases written <;> simp only [MembersDenotedBy] at left
    cases second <;> simp only [MembersDenotedBy] at right
    rfl
  | (name, value) :: rest, second, written, left, right => by
    cases written <;> simp only [MembersDenotedBy] at left
    cases second <;> simp only [MembersDenotedBy] at right
    rw [eq_of_decodeString? left.1 right.1, left.2.1.unique right.2.1,
      MembersDenotedBy.unique left.2.2 right.2.2]

end

/-! ## Reading a text on one line -/

/-- A text begins with something other than a blank or a closing bracket or brace. -/
def Begins (text : List Char) : Prop :=
  ∃ c more, text = c :: more ∧ c ∉ [' ', '\n', '\r', '\t', ']', '\x7d']

theorem Begins.skipSpace {text : List Char} (begins : Begins text) (rest : List Char) :
    skipSpace (text ++ rest) = text ++ rest := by
  obtain ⟨c, more, rfl, other⟩ := begins
  refine List.dropWhile_cons_of_neg ?_
  simp only [List.mem_cons, List.not_mem_nil, or_false, not_or] at other
  simp [other]

theorem Begins.append_ne {text : List Char} (begins : Begins text) {c : Char}
    (excluded : c = ']' ∨ c = '\x7d') (rest others : List Char) : text ++ rest ≠ c :: others := by
  obtain ⟨first, more, rfl, other⟩ := begins
  intro same
  obtain ⟨rfl, -⟩ := List.cons.inj same
  rcases excluded with rfl | rfl
  · simp at other
  · simp at other

theorem NumberText.IsGrammatical.exists_cons {text : NumberText}
    (grammatical : text.IsGrammatical) :
    ∃ c more, text.chars = c :: more ∧ (c = '-' ∨ c.isDigit = true) := by
  unfold NumberText.chars
  split
  · exact ⟨'-', _, rfl, .inl rfl⟩
  · obtain ⟨c, others, written⟩ := List.exists_cons_of_ne_nil grammatical.whole.1
    have digit := grammatical.whole.2 c (written ▸ List.mem_cons_self)
    refine ⟨c, others ++ NumberText.fractionChars text.fraction ++
      NumberText.exponentChars text.exponent, ?_, .inr digit⟩
    rw [NumberText.sizeChars, written, List.cons_append, List.cons_append]

theorem NumberText.IsGrammatical.begins {text : NumberText} (grammatical : text.IsGrammatical) :
    Begins text.chars := by
  obtain ⟨c, more, written, first⟩ := grammatical.exists_cons
  refine ⟨c, more, written, ?_⟩
  rcases first with rfl | digit
  · decide
  · intro member
    simp only [List.mem_cons, List.not_mem_nil, or_false] at member
    rcases member with rfl | rfl | rfl | rfl | rfl | rfl <;> cases digit

/-- The call itself takes one unit of fuel, and what is behind it as much as was enough before. -/
theorem exists_enough {holds : Nat → Prop} (enough : Nat)
    (succ : ∀ fuel, enough ≤ fuel → holds (fuel + 1)) :
    ∃ enough, ∀ fuel, enough ≤ fuel → holds fuel := by
  refine ⟨enough + 1, fun fuel more => ?_⟩
  obtain ⟨less, rfl⟩ : ∃ less, fuel = less + 1 := ⟨fuel - 1, by omega⟩
  exact succ less (by omega)

/-- A text is read as a written document with enough fuel, whatever comes behind it. -/
def ReadsAs (text : List Char) (written : Written) : Prop :=
  ∃ enough, ∀ fuel, enough ≤ fuel → ∀ rest, NumberText.Ends rest →
    readValue fuel (text ++ rest) = some (written, rest)

/-- A grammatical literal is read as itself. -/
theorem readsAs_number {text : NumberText} (grammatical : text.IsGrammatical) :
    ReadsAs text.chars (.number text) := by
  refine exists_enough 0 fun fuel _ rest ends => ?_
  have scanned := NumberText.scan?_chars grammatical ends
  obtain ⟨c, more, written, first⟩ := grammatical.exists_cons
  have opened : ∀ d ∈ ['n', 't', 'f', '"', '[', '\x7b'], ∀ others,
      text.chars ++ rest ≠ d :: others := by
    intro d member others same
    rw [written, List.cons_append] at same
    obtain ⟨rfl, -⟩ := List.cons.inj same
    simp only [List.mem_cons, List.not_mem_nil, or_false] at member
    rcases first with rfl | digit
    · revert member
      decide
    · rcases member with rfl | rfl | rfl | rfl | rfl | rfl <;> cases digit
  rw [readValue, grammatical.begins.skipSpace]
  split
  · next same => exact absurd same (opened 'n' (by simp) _)
  · next same => exact absurd same (opened 't' (by simp) _)
  · next same => exact absurd same (opened 'f' (by simp) _)
  · next same => exact absurd same (opened '"' (by simp) _)
  · next same => exact absurd same (opened '[' (by simp) _)
  · next same => exact absurd same (opened '\x7b' (by simp) _)
  · rw [scanned]
    rfl

theorem readsAs_string (s : String) :
    ReadsAs (stringText s).toList (.string (s.toList.map charPart)) := by
  refine exists_enough 0 fun fuel _ rest _ => ?_
  rw [toList_stringText, List.cons_append, List.append_assoc, List.singleton_append, readValue]
  have read := readString_escaped s.toList rest
  change (readString _).bind _ = _
  rw [read]
  rfl

/-- A finite document on one line begins with something other than a blank or a closing bracket or
brace. -/
theorem begins_compact {json : Json} (finite : json.isFinite = true) :
    Begins json.compact.toList := by
  cases json with
  | null => exact ⟨'n', _, rfl, by decide⟩
  | bool b =>
    cases b with
    | true => exact ⟨'t', _, rfl, by decide⟩
    | false => exact ⟨'f', _, rfl, by decide⟩
  | int i =>
    rw [compact, NumberText.chars_ofInt]
    exact (NumberText.isGrammatical_ofInt i).begins
  | float x =>
    obtain ⟨text, grammatical, written, -⟩ := NumberText.exists_denotesFloat finite
    rw [compact, written]
    exact grammatical.begins
  | string s =>
    rw [compact, toList_stringText]
    exact ⟨'"', _, rfl, by decide⟩
  | array items =>
    rw [compact, String.toList_append, String.toList_append]
    exact ⟨'[', _, rfl, by decide⟩
  | object members =>
    rw [compact, String.toList_append, String.toList_append]
    exact ⟨'\x7b', _, rfl, by decide⟩

theorem ends_cons {c : Char} (closing : c = ',' ∨ c = ']' ∨ c = '\x7d') (rest : List Char) :
    NumberText.Ends (c :: rest) := by
  rintro _ ⟨⟩
  rcases closing with rfl | rfl | rfl <;> decide

/-- Texts with commas between them begin as the first of them does. -/
theorem begins_intercalate {first : String} (begins : Begins first.toList) (others : List String) :
    Begins (",".intercalate (first :: others)).toList := by
  obtain ⟨c, more, written, other⟩ := begins
  cases others with
  | nil =>
    rw [String.intercalate_singleton]
    exact ⟨c, more, written, other⟩
  | cons second others =>
    rw [String.intercalate_cons_cons, String.toList_append, String.toList_append, written]
    exact ⟨c, _, rfl, other⟩

section Steps

variable {fuel : Nat} {text more rest : List Char}

/-- An array begins with its bracket. -/
theorem readValue_bracket (text : List Char) :
    readValue (fuel + 1) ('[' :: text) =
      match skipSpace text with
      | ']' :: rest => some (.array [], rest)
      | rest => (readItems fuel rest).bind fun (items, rest) => some (.array items, rest) := by
  rw [readValue]
  rfl

theorem readValue_array {items : List Written} (begins : Begins text)
    (read : readItems fuel (text ++ ']' :: rest) = some (items, rest)) :
    readValue (fuel + 1) ('[' :: (text ++ ']' :: rest)) = some (.array items, rest) := by
  rw [readValue_bracket, begins.skipSpace]
  split
  · next same => exact absurd same (begins.append_ne (.inl rfl) _ _)
  · rw [read]
    rfl

theorem readItems_last {written : Written}
    (read : readValue fuel (text ++ ']' :: rest) = some (written, ']' :: rest)) :
    readItems (fuel + 1) (text ++ ']' :: rest) = some ([written], rest) := by
  rw [readItems, read]
  rfl

theorem readItems_cons {written : Written} {others : List Written}
    (read : readValue fuel (text ++ ',' :: more) = some (written, ',' :: more))
    (later : readItems fuel more = some (others, rest)) :
    readItems (fuel + 1) (text ++ ',' :: more) = some (written :: others, rest) := by
  rw [readItems, read]
  change (readItems fuel more).bind _ = _
  rw [later]
  rfl

/-- An object begins with its brace. -/
theorem readValue_brace (text : List Char) :
    readValue (fuel + 1) ('\x7b' :: text) =
      match skipSpace text with
      | '\x7d' :: rest => some (.object [], rest)
      | rest => (readMembers fuel rest).bind fun (members, rest) =>
        some (.object members, rest) := by
  rw [readValue]
  rfl

theorem readValue_object {members : List (List StringPart × Written)} (begins : Begins text)
    (read : readMembers fuel (text ++ '\x7d' :: rest) = some (members, rest)) :
    readValue (fuel + 1) ('\x7b' :: (text ++ '\x7d' :: rest)) = some (.object members, rest) := by
  rw [readValue_brace, begins.skipSpace]
  split
  · next same => exact absurd same (begins.append_ne (.inr rfl) _ _)
  · rw [read]
    rfl

/-- A member begins with its name, a colon and its value. -/
theorem readMembers_eq (name : String) (text : List Char) :
    readMembers (fuel + 1) ((stringText name).toList ++ ':' :: text) =
      (readValue fuel text).bind fun (value, rest) =>
        match skipSpace rest with
        | ',' :: rest => (readMembers fuel rest).bind fun (members, rest) =>
          some ((name.toList.map charPart, value) :: members, rest)
        | '\x7d' :: rest => some ([(name.toList.map charPart, value)], rest)
        | _ => none := by
  rw [toList_stringText, List.cons_append, List.append_assoc, List.singleton_append, readMembers]
  have read := readString_escaped name.toList (':' :: text)
  change (readString _).bind _ = _
  rw [read]
  rfl

theorem readMembers_last {name : String} {written : Written}
    (read : readValue fuel (text ++ '\x7d' :: rest) = some (written, '\x7d' :: rest)) :
    readMembers (fuel + 1) ((stringText name).toList ++ ':' :: (text ++ '\x7d' :: rest)) =
      some ([(name.toList.map charPart, written)], rest) := by
  rw [readMembers_eq, read]
  rfl

theorem readMembers_cons {name : String} {written : Written}
    {others : List (List StringPart × Written)}
    (read : readValue fuel (text ++ ',' :: more) = some (written, ',' :: more))
    (later : readMembers fuel more = some (others, rest)) :
    readMembers (fuel + 1) ((stringText name).toList ++ ':' :: (text ++ ',' :: more)) =
      some ((name.toList.map charPart, written) :: others, rest) := by
  rw [readMembers_eq, read]
  change (readMembers fuel more).bind _ = _
  rw [later]
  rfl

end Steps

mutual

/-- A document on one line is read as a written document that denotes it. -/
theorem exists_reading : ∀ json : Json, json.isFinite = true →
    ∃ written, json.DenotedBy written ∧ ReadsAs json.compact.toList written
  | .null, _ => by
    refine ⟨.null, trivial, exists_enough 0 fun fuel _ rest _ => ?_⟩
    rfl
  | .bool b, _ => by
    refine ⟨.bool b, rfl, exists_enough 0 fun fuel _ rest _ => ?_⟩
    cases b <;> rfl
  | .int i, _ => by
    refine ⟨.number (.ofInt i), NumberText.denotesInt_ofInt i, ?_⟩
    rw [compact, NumberText.chars_ofInt]
    exact readsAs_number (NumberText.isGrammatical_ofInt i)
  | .float x, finite => by
    obtain ⟨text, grammatical, written, denotes⟩ := NumberText.exists_denotesFloat finite
    refine ⟨.number text, denotes, ?_⟩
    rw [compact, written]
    exact readsAs_number grammatical
  | .string s, _ => by
    refine ⟨.string (s.toList.map charPart), decodeString?_map_charPart s.toList, ?_⟩
    rw [compact]
    exact readsAs_string s
  | .array [], _ => by
    refine ⟨.array [], trivial, exists_enough 0 fun fuel _ rest _ => ?_⟩
    rfl
  | .array (item :: items), finite => by
    obtain ⟨written, denotes, enough, read⟩ := exists_readingItems (item :: items) (by simp) finite
    rw [isFinite, areFinite, Bool.and_eq_true] at finite
    refine ⟨.array written, denotes, exists_enough enough fun fuel more rest _ => ?_⟩
    rw [compact, String.toList_append, String.toList_append, List.append_assoc, List.append_assoc]
    exact readValue_array (begins_intercalate (begins_compact finite.1) _)
      (read fuel (by omega) rest)
  | .object [], _ => by
    refine ⟨.object [], trivial, exists_enough 0 fun fuel _ rest _ => ?_⟩
    rfl
  | .object (member :: members), finite => by
    obtain ⟨written, denotes, enough, read⟩ :=
      exists_readingMembers (member :: members) (by simp) finite
    obtain ⟨name, value⟩ := member
    have begins : Begins (stringText name ++ ":" ++ value.compact).toList := by
      rw [String.toList_append, String.toList_append, toList_stringText]
      exact ⟨'"', _, rfl, by decide⟩
    refine ⟨.object written, denotes, exists_enough enough fun fuel more rest _ => ?_⟩
    rw [compact, String.toList_append, String.toList_append, List.append_assoc, List.append_assoc]
    exact readValue_object (begins_intercalate begins _) (read fuel (by omega) rest)

/-- Items on one line, up to the closing bracket, are read as items that denote them. -/
theorem exists_readingItems : ∀ items : List Json, items ≠ [] → areFinite items = true →
    ∃ written, ItemsDenotedBy items written ∧ ∃ enough, ∀ fuel, enough ≤ fuel → ∀ rest,
      readItems fuel ((",".intercalate (compactItems items)).toList ++ ']' :: rest) =
        some (written, rest)
  | [], nonempty, _ => absurd rfl nonempty
  | [item], _, finite => by
    rw [areFinite, Bool.and_eq_true] at finite
    obtain ⟨written, denotes, enough, read⟩ := exists_reading item finite.1
    refine ⟨[written], ⟨denotes, trivial⟩, exists_enough enough fun fuel more rest => ?_⟩
    rw [compactItems, compactItems, String.intercalate_singleton]
    exact readItems_last (read fuel (by omega) _ (ends_cons (by simp) rest))
  | item :: next :: items, _, finite => by
    rw [areFinite, Bool.and_eq_true] at finite
    obtain ⟨written, denotes, enough, read⟩ := exists_reading item finite.1
    obtain ⟨others, denoteToo, enoughToo, readToo⟩ :=
      exists_readingItems (next :: items) (by simp) finite.2
    refine ⟨written :: others, ⟨denotes, denoteToo⟩,
      exists_enough (max enough enoughToo) fun fuel more rest => ?_⟩
    rw [compactItems] at readToo ⊢
    rw [compactItems, String.intercalate_cons_cons, String.toList_append, String.toList_append,
      List.append_assoc, List.append_assoc]
    exact readItems_cons (read fuel (by omega) _ (ends_cons (by simp) _))
      (readToo fuel (by omega) rest)

/-- Members on one line, up to the closing brace, are read as members that denote them. -/
theorem exists_readingMembers : ∀ members : List (String × Json), members ≠ [] →
    areMembersFinite members = true →
    ∃ written, MembersDenotedBy members written ∧ ∃ enough, ∀ fuel, enough ≤ fuel → ∀ rest,
      readMembers fuel ((",".intercalate (compactMembers members)).toList ++ '\x7d' :: rest) =
        some (written, rest)
  | [], nonempty, _ => absurd rfl nonempty
  | [(name, value)], _, finite => by
    rw [areMembersFinite, Bool.and_eq_true] at finite
    obtain ⟨written, denotes, enough, read⟩ := exists_reading value finite.1
    refine ⟨[(name.toList.map charPart, written)],
      ⟨decodeString?_map_charPart name.toList, denotes, trivial⟩,
      exists_enough enough fun fuel more rest => ?_⟩
    rw [compactMembers, compactMembers, String.intercalate_singleton, String.toList_append,
      String.toList_append, List.append_assoc, List.append_assoc]
    exact readMembers_last (read fuel (by omega) _ (ends_cons (by simp) rest))
  | (name, value) :: next :: members, _, finite => by
    rw [areMembersFinite, Bool.and_eq_true] at finite
    obtain ⟨written, denotes, enough, read⟩ := exists_reading value finite.1
    obtain ⟨others, denoteToo, enoughToo, readToo⟩ :=
      exists_readingMembers (next :: members) (by simp) finite.2
    refine ⟨(name.toList.map charPart, written) :: others,
      ⟨decodeString?_map_charPart name.toList, denotes, denoteToo⟩,
      exists_enough (max enough enoughToo) fun fuel more rest => ?_⟩
    obtain ⟨nextName, nextValue⟩ := next
    rw [compactMembers] at readToo ⊢
    rw [compactMembers, String.intercalate_cons_cons]
    simp only [String.toList_append, List.append_assoc] at readToo ⊢
    exact readMembers_cons (read fuel (by omega) _ (ends_cons (by simp) _))
      (readToo fuel (by omega) rest)

end

/-- Documents whose floating-point numbers are finite are equal if their texts are. -/
theorem compact_inj {first second : Json} (finite : first.isFinite = true)
    (finiteToo : second.isFinite = true) (same : first.compact = second.compact) :
    first = second := by
  obtain ⟨written, denotes, enough, read⟩ := exists_reading first finite
  obtain ⟨writtenToo, denotesToo, enoughToo, readToo⟩ := exists_reading second finiteToo
  have nothing : NumberText.Ends [] := fun _ head => nomatch head
  have once := read (max enough enoughToo) (Nat.le_max_left _ _) [] nothing
  have again := readToo (max enough enoughToo) (Nat.le_max_right _ _) [] nothing
  rw [same, again] at once
  cases once
  exact denotes.unique denotesToo

end SqlLowering.Json
