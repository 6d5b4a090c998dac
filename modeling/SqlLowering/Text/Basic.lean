/-!
Pieces of text that everything else is written with: classes of characters given by ranges of code
points, white space as Unicode has it, and text between marks.
-/

namespace SqlLowering.Text

/-- Whether a character lies in one of some ranges, whose ends belong to them. -/
def inRanges (ranges : List (Nat × Nat)) (c : Char) : Bool :=
  ranges.any fun (low, high) => low ≤ c.toNat && c.toNat ≤ high

/-! ## White space -/

/-- The ranges of code points that carry the property `White_Space`. -/
def blankRanges : List (Nat × Nat) :=
  [(0x09, 0x0d), (0x20, 0x20), (0x85, 0x85), (0xa0, 0xa0), (0x1680, 0x1680), (0x2000, 0x200a),
   (0x2028, 0x2029), (0x202f, 0x202f), (0x205f, 0x205f), (0x3000, 0x3000)]

/-- Whether a character is white space. -/
def isBlank (c : Char) : Bool :=
  inRanges blankRanges c

/-- The rest of a text after the white space at its start. -/
def skipBlanks : List Char → List Char :=
  List.dropWhile isBlank

/-!
## Text between marks

The closing mark is written twice where the text itself contains it, so the first mark that stands
alone ends the text, whatever the text is.
-/

/-- The characters of a text, every occurrence of `mark` written twice. -/
def doubling (mark : Char) : List Char → List Char
  | [] => []
  | c :: rest =>
    if c = mark then mark :: mark :: doubling mark rest else c :: doubling mark rest

/-- The text between `opening` and `closing`, with `closing` doubled inside. -/
def quoted (opening : String) (closing : Char) (text : String) : String :=
  opening ++ String.ofList (doubling closing text.toList ++ [closing])

end SqlLowering.Text
