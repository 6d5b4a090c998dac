import SqlLowering.Text.Basic
import SqlLowering.Text.Digits

/-!
Days of the proleptic Gregorian calendar, written `YYYY-MM-DD`. A year beyond four digits carries a
plus sign and a year before year zero a minus sign. The reader allows white space before each of
the three numbers, fewer digits than the written form has, and more of them in a year with a sign.
-/

namespace SqlLowering.Calendar

/-- Whether a year has a twenty-ninth of February. -/
def isLeapYear (year : Int) : Bool :=
  year % 4 == 0 && (year % 100 != 0 || year % 400 == 0)

/-- The number of days of a month. -/
def daysIn (year : Int) (month : Nat) : Nat :=
  if month = 2 then
    if isLeapYear year then 29 else 28
  else if month = 4 ∨ month = 6 ∨ month = 9 ∨ month = 11 then 30
  else 31

/-- The first year. -/
def firstYear : Int := -262143

/-- The last year. -/
def lastYear : Int := 262142

/-- A day of the calendar. -/
structure Date where
  year : Int
  month : Nat
  day : Nat
  year_range : firstYear ≤ year ∧ year ≤ lastYear
  month_range : 1 ≤ month ∧ month ≤ 12
  day_range : 1 ≤ day ∧ day ≤ daysIn year month
deriving DecidableEq

namespace Date

/-- The day of a year, month and day of the month, if there is one. -/
def of? (year : Int) (month day : Nat) : Option Date :=
  if h : (firstYear ≤ year ∧ year ≤ lastYear) ∧ (1 ≤ month ∧ month ≤ 12) ∧
      (1 ≤ day ∧ day ≤ daysIn year month) then
    some ⟨year, month, day, h.1, h.2.1, h.2.2⟩
  else
    none

/-- Days in the order of time. -/
def compare (a b : Date) : Ordering :=
  (Ord.compare a.year b.year).then ((Ord.compare a.month b.month).then (Ord.compare a.day b.day))

/-- A year in its written form. -/
def yearText (year : Int) : String :=
  if year < 0 then "-" ++ Text.padded 4 year.natAbs
  else if 9999 < year then "+" ++ Text.padded 4 year.natAbs
  else Text.padded 4 year.natAbs

/-- A day in its written form. -/
def toString (d : Date) : String :=
  yearText d.year ++ "-" ++ Text.padded 2 d.month ++ "-" ++ Text.padded 2 d.day

instance : ToString Date := ⟨Date.toString⟩

end Date

/-! ## Reading -/

/-- White space and then a number of one up to `limit` digits. -/
def readNumber (limit : Nat) (text : List Char) : Option (Nat × List Char) :=
  match Text.takeDigits limit (Text.skipBlanks text) with
  | ([], _) => none
  | (digits, rest) => some (Text.digitsValue digits, rest)

/-- Exactly one character. -/
def readChar (c : Char) : List Char → Option (List Char)
  | d :: rest => if d = c then some rest else none
  | [] => none

/-- At least one digit directly at the start of a text. -/
def readDigits (text : List Char) : Option (Nat × List Char) :=
  match Text.takeDigits text.length text with
  | ([], _) => none
  | (digits, rest) => some (Text.digitsValue digits, rest)

/-- A year: up to four digits, or a sign and any number of digits. -/
def readYear (text : List Char) : Option (Int × List Char) :=
  match Text.skipBlanks text with
  | '-' :: rest => (readDigits rest).map fun (n, rest) => (-(n : Int), rest)
  | '+' :: rest => (readDigits rest).map fun (n, rest) => ((n : Int), rest)
  | rest => (readNumber 4 rest).map fun (n, rest) => ((n : Int), rest)

/-- A day at the start of a text, and the rest. -/
def readDate (text : List Char) : Option (Date × List Char) := do
  let (year, rest) ← readYear text
  let rest ← readChar '-' rest
  let (month, rest) ← readNumber 2 rest
  let rest ← readChar '-' rest
  let (day, rest) ← readNumber 2 rest
  let date ← Date.of? year month day
  return (date, rest)

/-- The day that a text denotes. -/
def Date.ofString? (text : String) : Option Date :=
  match readDate text.toList with
  | some (date, []) => some date
  | _ => none

end SqlLowering.Calendar
