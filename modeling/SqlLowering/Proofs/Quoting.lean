import Mathlib.Data.List.Basic
import SqlLowering.Dialect

/-!
# Quoted text cannot be escaped from

A reader of quoted text takes two closing marks in a row for one and stops at the first closing mark
that stands alone. What it finds in front of a text is what has been quoted there, and what it
leaves is what follows, whatever marks the quoted text itself begins with, ends with or has in a row
(`Text.readQuoted?_eq_some_iff`). Only a text that goes on with the closing mark can be mistaken for
more of the quoted one.
-/

namespace SqlLowering

namespace Text

/-! ## Readers -/

/-- The characters up to the first mark that stands alone, with two marks in a row for one, and the
characters behind that mark. There are none of either if no mark stands alone. -/
def readToMark (mark : Char) : List Char → Option (List Char × List Char)
  | [] => none
  | [c] => if c = mark then some ([], []) else none
  | c :: d :: rest =>
    if c ≠ mark then (readToMark mark (d :: rest)).map fun read => (c :: read.1, read.2)
    else if d = mark then (readToMark mark rest).map fun read => (mark :: read.1, read.2)
    else some ([], d :: rest)

/-- The quoted text that a text begins with, and what follows it. -/
def readQuoted? (opening : String) (closing : Char) (text : String) : Option (String × String) :=
  ((opening.toList.isPrefixOf? text.toList).bind (readToMark closing)).map
    (Prod.map String.ofList String.ofList)

/-- The literal that a text begins with. -/
def readLiteral? : String → Option (String × String) :=
  readQuoted? "N'" singleQuote

/-- The name in brackets that a text begins with. -/
def readName? : String → Option (String × String) :=
  readQuoted? "[" ']'

/-! ## One character at a time -/

section Marks

variable {mark : Char}

theorem readToMark_cons_of_ne {c : Char} (other : c ≠ mark) (chars : List Char) :
    readToMark mark (c :: chars) =
      (readToMark mark chars).map fun read => (c :: read.1, read.2) := by
  cases chars with
  | nil => exact if_neg other
  | cons d rest => rw [readToMark, if_pos other]

theorem readToMark_doubled (chars : List Char) :
    readToMark mark (mark :: mark :: chars) =
      (readToMark mark chars).map fun read => (mark :: read.1, read.2) := by
  rw [readToMark, if_neg (not_not.2 rfl), if_pos rfl]

theorem readToMark_alone {chars : List Char} (ends : chars.head? ≠ some mark) :
    readToMark mark (mark :: chars) = some ([], chars) := by
  cases chars with
  | nil => rw [readToMark, if_pos rfl]
  | cons d rest =>
    have other : d ≠ mark := by
      rintro rfl
      exact ends rfl
    rw [readToMark, if_neg (not_not.2 rfl), if_neg other]

/-! ## Reading and doubling -/

/-- Doubled text is read back up to the mark behind it. -/
theorem readToMark_doubling {rest : List Char} (ends : rest.head? ≠ some mark)
    (inside : List Char) :
    readToMark mark (doubling mark inside ++ mark :: rest) = some (inside, rest) := by
  induction inside with
  | nil => exact readToMark_alone ends
  | cons c others ih =>
    rw [doubling]
    split
    next marked =>
      rw [List.cons_append, List.cons_append, readToMark_doubled, ih, marked]
      rfl
    next other =>
      rw [List.cons_append, readToMark_cons_of_ne other, ih]
      rfl

/-- Nothing but doubled text is read, and the mark behind it stands alone. -/
theorem eq_doubling_of_readToMark {chars inside rest : List Char}
    (read : readToMark mark chars = some (inside, rest)) :
    chars = doubling mark inside ++ mark :: rest ∧ rest.head? ≠ some mark := by
  fun_induction readToMark mark chars generalizing inside rest with
  | case1 => cases read
  | case2 =>
    cases read
    exact ⟨rfl, (Option.some_ne_none mark).symm⟩
  | case3 => cases read
  | case4 c d others other ih =>
    obtain ⟨⟨before, behind⟩, found, same⟩ := Option.map_eq_some_iff.1 read
    cases same
    obtain ⟨written, ends⟩ := ih found
    rw [doubling, if_neg other, List.cons_append, ← written]
    exact ⟨rfl, ends⟩
  | case5 c others marked ih =>
    obtain ⟨⟨before, behind⟩, found, same⟩ := Option.map_eq_some_iff.1 read
    cases same
    obtain ⟨rfl, ends⟩ := ih found
    rw [doubling, if_pos rfl, List.cons_append, List.cons_append, not_not.1 marked]
    exact ⟨rfl, ends⟩
  | case6 c d others marked other =>
    cases read
    rw [not_not.1 marked]
    refine ⟨rfl, ?_⟩
    rw [List.head?_cons, Ne, Option.some.injEq]
    exact other

end Marks

/-- A reader finds a text and what follows it exactly if the one stands there quoted, the other
behind it, and the two are not joined by another closing mark. -/
theorem readQuoted?_eq_some_iff {opening : String} {closing : Char} {text s t : String} :
    readQuoted? opening closing text = some (s, t) ↔
      text = quoted opening closing s ++ t ∧ t.toList.head? ≠ some closing := by
  have written : (quoted opening closing s ++ t).toList =
      opening.toList ++ (doubling closing s.toList ++ closing :: t.toList) := by
    simp [quoted]
  constructor
  · intro read
    obtain ⟨⟨inside, rest⟩, found, same⟩ := Option.map_eq_some_iff.1 read
    cases same
    obtain ⟨chars, begins, marked⟩ := Option.bind_eq_some_iff.1 found
    obtain ⟨rfl, ends⟩ := eq_doubling_of_readToMark marked
    rw [List.isPrefixOf?_eq_some_iff_append_eq] at begins
    simp only [String.toList_ofList] at written ⊢
    exact ⟨String.toList_injective (begins.symm.trans written.symm), ends⟩
  · rintro ⟨rfl, ends⟩
    rw [readQuoted?, written, List.isPrefixOf?_eq_some_iff_append_eq.2 rfl, Option.bind_some,
      readToMark_doubling ends, Option.map_some, Prod.map_apply, String.ofList_toList,
      String.ofList_toList]

theorem quoted_injective (opening : String) (closing : Char) :
    Function.Injective (quoted opening closing) := by
  intro s s' same
  have read : ∀ s, readQuoted? opening closing (quoted opening closing s ++ "") = some (s, "") :=
    fun s => readQuoted?_eq_some_iff.2 ⟨rfl, (Option.some_ne_none closing).symm⟩
  have reads := read s
  rw [same, read s'] at reads
  cases reads
  rfl

end Text

/-- Behind a literal or a name in brackets, a reader finds what has been quoted and leaves what
follows, unless that goes on with the closing mark. So different texts have different literals, and
different names are quoted differently. -/
theorem Dialect.quoting_inescapable :
    (∀ s t : String, Text.readLiteral? (Dialect.sqlServer.stringLiteral s ++ t) = some (s, t) ↔
      t.toList.head? ≠ some singleQuote) ∧
    (∀ s t : String, Text.readName? (Dialect.sqlServer.quoteIdentifier s ++ t) = some (s, t) ↔
      t.toList.head? ≠ some ']') ∧
    Function.Injective Dialect.sqlServer.stringLiteral ∧
    Function.Injective Dialect.sqlServer.quoteIdentifier := by
  refine ⟨fun s t => ?_, fun s t => ?_, Text.quoted_injective _ _, Text.quoted_injective _ _⟩
  · exact Text.readQuoted?_eq_some_iff.trans (and_iff_right rfl)
  · exact Text.readQuoted?_eq_some_iff.trans (and_iff_right rfl)

example : Text.readLiteral? "N'''; DROP TABLE T --' AS [x]" =
    some ("'; DROP TABLE T --", " AS [x]") := by
  rfl

end SqlLowering
