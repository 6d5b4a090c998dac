/-!
The shortest decimal of a binary number: among the decimals that read back as the number, those
with the fewest digits, and of these the nearest. A decimal reads back as `m · 2 ^ e` when it lies
between the midpoints to the two neighbours; the midpoints themselves count when `m` is even.
-/

namespace SqlLowering.Decimal

/-- Which of two equally near decimals is taken. -/
inductive Tie where
  | toEven
  | up
deriving DecidableEq, Repr

/-- The decimal `digits · 10 ^ exponent`. -/
structure Numeral where
  digits : Nat
  exponent : Int
deriving DecidableEq, Repr

/-- A positive binary number in quarters of its unit: the number is `4 m` quarters, the midpoints to
its neighbours are `low` and `4 m + 2` quarters. The neighbour below is nearer when the mantissa is
the least one of its binade. -/
structure Quarters where
  mantissa : Nat
  exponent : Int
  narrowBelow : Bool

namespace Quarters

/-- The midpoint to the neighbour below, in quarters. -/
def low (q : Quarters) : Nat :=
  if q.narrowBelow then 4 * q.mantissa - 1 else 4 * q.mantissa - 2

/-- The midpoint to the neighbour above, in quarters. -/
def high (q : Quarters) : Nat :=
  4 * q.mantissa + 2

/-- One quarter, over the common scale with the grid of step `10 ^ k`. -/
def quarter (q : Quarters) (k : Int) : Nat :=
  Nat.pow 2 (q.exponent - 2).toNat * Nat.pow 10 (-k).toNat

/-- The step `10 ^ k` of the grid, over the common scale with the quarters. -/
def step (q : Quarters) (k : Int) : Nat :=
  Nat.pow 10 k.toNat * Nat.pow 2 (2 - q.exponent).toNat

/-- Whether the grid point `d · 10 ^ k` reads back as the number. -/
def readsBack (q : Quarters) (k : Int) (d : Nat) : Bool :=
  let point := d * q.step k
  let low := q.low * q.quarter k
  let high := q.high * q.quarter k
  if q.mantissa % 2 = 0 then low ≤ point && point ≤ high else low < point && point < high

/-- The nearer of the grid points `d` and `d + 1` on both sides of the number. -/
def nearer (q : Quarters) (tie : Tie) (k : Int) (d : Nat) : Nat :=
  let beyond := 2 * (4 * q.mantissa * q.quarter k - d * q.step k)
  if beyond < q.step k then d
  else if q.step k < beyond then d + 1
  else match tie with
    | .toEven => if d % 2 = 0 then d else d + 1
    | .up => d + 1

/-- The point of the grid of step `10 ^ k` that reads back as the number, if there is one. Only the
two neighbours of the number on the grid can do so. -/
def onGrid? (q : Quarters) (tie : Tie) (k : Int) : Option Nat :=
  let d := 4 * q.mantissa * q.quarter k / q.step k
  match q.readsBack k d, q.readsBack k (d + 1) with
  | true, true => some (q.nearer tie k d)
  | true, false => some d
  | false, true => some (d + 1)
  | false, false => none

/-- The first hit on the grids of step `10 ^ k`, `10 ^ (k - 1)`, … -/
def search (q : Quarters) (tie : Tie) : Nat → Int → Numeral
  | 0, k => ⟨4 * q.mantissa * q.quarter k / q.step k, k⟩
  | fuel + 1, k =>
    match q.onGrid? tie k with
    | some d => ⟨d, k⟩
    | none => search q tie fuel (k - 1)

/-- A power of ten above the number, from the number of its bits. -/
def scaleAbove (q : Quarters) : Int :=
  (q.exponent + Nat.log2 q.mantissa + 2) * 30103 / 100000 + 1

/-- Seventeen digits always suffice, so the search meets a hit well before it ends. -/
def shortest (q : Quarters) (tie : Tie) : Numeral :=
  q.search tie 24 q.scaleAbove

end Quarters

end SqlLowering.Decimal
