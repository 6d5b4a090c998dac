import SqlLowering.Calendar.Date

/-!
Moments of a day to the nanosecond, without a time zone, written `YYYY-MM-DDTHH:MM:SS` with three,
six or nine digits of a fraction when there is one. The second sixty is a leap second, after the
second fifty-nine and before the next minute.
-/

namespace SqlLowering.Calendar

/-- A moment of some day. A leap second is the second sixty of a minute; a leap second after any
other second than fifty-nine, which no text is read as, is left out. -/
structure Time where
  hour : Nat
  minute : Nat
  second : Nat
  nanosecond : Nat
  hour_lt : hour < 24
  minute_lt : minute < 60
  second_le : second ≤ 60
  nanosecond_lt : nanosecond < 1000000000
deriving DecidableEq

namespace Time

/-- The moment of its parts, if there is one. -/
def of? (hour minute second nanosecond : Nat) : Option Time :=
  if h : hour < 24 ∧ minute < 60 ∧ second ≤ 60 ∧ nanosecond < 1000000000 then
    some ⟨hour, minute, second, nanosecond, h.1, h.2.1, h.2.2.1, h.2.2.2⟩
  else
    none

/-- Moments in the order of time. -/
def compare (a b : Time) : Ordering :=
  (Ord.compare a.hour b.hour).then ((Ord.compare a.minute b.minute).then
    ((Ord.compare a.second b.second).then (Ord.compare a.nanosecond b.nanosecond)))

/-- The fraction of a second, in as many groups of three digits as it needs. -/
def fractionText (nanosecond : Nat) : String :=
  if nanosecond = 0 then ""
  else if nanosecond % 1000000 = 0 then "." ++ Text.padded 3 (nanosecond / 1000000)
  else if nanosecond % 1000 = 0 then "." ++ Text.padded 6 (nanosecond / 1000)
  else "." ++ Text.padded 9 nanosecond

/-- A moment in its written form. -/
def toString (t : Time) : String :=
  Text.padded 2 t.hour ++ ":" ++ Text.padded 2 t.minute ++ ":" ++ Text.padded 2 t.second ++
    fractionText t.nanosecond

instance : ToString Time := ⟨Time.toString⟩

end Time

/-- A moment of a day of the calendar. -/
structure Timestamp where
  date : Date
  time : Time
deriving DecidableEq

namespace Timestamp

/-- Timestamps in the order of time. -/
def compare (a b : Timestamp) : Ordering :=
  (a.date.compare b.date).then (a.time.compare b.time)

/-- A timestamp in its written form. -/
def toString (t : Timestamp) : String :=
  t.date.toString ++ "T" ++ t.time.toString

instance : ToString Timestamp := ⟨Timestamp.toString⟩

end Timestamp

/-! ## Reading -/

/-- The fraction of a second: none, or a point and at least one digit. The digits after the ninth
are dropped. -/
def readFraction : List Char → Option (Nat × List Char)
  | '.' :: rest =>
    match Text.takeDigits rest.length rest with
    | ([], _) => none
    | (digits, rest) =>
      let kept := digits.take 9
      some (Text.digitsValue kept * Nat.pow 10 (9 - kept.length), rest)
  | text => some (0, text)

/-- A moment at the start of a text, and the rest. -/
def readTime (text : List Char) : Option (Time × List Char) := do
  let (hour, rest) ← readNumber 2 text
  let rest ← readChar ':' rest
  let (minute, rest) ← readNumber 2 rest
  let rest ← readChar ':' rest
  let (second, rest) ← readNumber 2 rest
  let (nanosecond, rest) ← readFraction rest
  let time ← Time.of? hour minute second nanosecond
  return (time, rest)

/-- The timestamp that a text denotes, where `separate` reads what stands between day and time. -/
def readTimestamp (separate : List Char → Option (List Char)) (text : List Char) :
    Option Timestamp := do
  let (date, rest) ← readDate text
  let rest ← separate rest
  match ← readTime rest with
  | (time, []) => return ⟨date, time⟩
  | _ => none

namespace Timestamp

/-- The timestamp that a text in the written form denotes. -/
def ofWritten? (text : String) : Option Timestamp :=
  readTimestamp (readChar 'T') text.toList

/-- The timestamp that a text denotes, with a `T` or any white space before the time. -/
def ofString? (text : String) : Option Timestamp :=
  ofWritten? text <|> readTimestamp (fun rest => some (Text.skipBlanks rest)) text.toList

end Timestamp

end SqlLowering.Calendar
