/-!
Binary floating-point numbers of 64 bits in exact arithmetic: a finite number is `± m · 2 ^ e` for
integers `m` and `e`, and whole-number conversion and remainder are said on these.
-/

namespace SqlLowering.Binary64

/-- A finite number, as sign, mantissa and power of two. -/
structure Finite where
  negative : Bool
  mantissa : Nat
  exponent : Int
deriving DecidableEq, Repr

/-- The least exponent, the one of the subnormal numbers. -/
def leastExponent : Int := -1074

/-- Sign, mantissa and exponent of a finite number. A mantissa below `2 ^ 52` occurs only with the
least exponent. -/
def finite? (x : Float) : Option Finite :=
  let bits := x.toBits.toNat
  let biased := bits / Nat.pow 2 52 % Nat.pow 2 11
  let fraction := bits % Nat.pow 2 52
  if biased = Nat.pow 2 11 - 1 then none
  else some {
    negative := bits / Nat.pow 2 63 = 1
    mantissa := if biased = 0 then fraction else fraction + Nat.pow 2 52
    exponent := leastExponent + (biased - 1 : Nat) }

/-- The nearest number to an integer of at most 64 bits, ties to the even mantissa. -/
def ofInt (i : Int) : Float :=
  if i < 0 then -i.natAbs.toUInt64.toFloat else i.natAbs.toUInt64.toFloat

/-- The number `m · 2 ^ e`, exact whenever `m` has at most 53 bits and the result is in range. -/
def scaled (m : Nat) (e : Int) : Float :=
  m.toUInt64.toFloat.scaleB e

/-- The remainder of a division that rounds its quotient toward zero. It is exact, has the sign of
the dividend and is smaller than the divisor. -/
def remainder (x y : Float) : Float :=
  match finite? x, finite? y with
  | some a, some b =>
    if b.mantissa = 0 then 0.0 / 0.0
    else
      let least := min a.exponent b.exponent
      let dividend := a.mantissa * Nat.pow 2 (a.exponent - least).toNat
      let divisor := b.mantissa * Nat.pow 2 (b.exponent - least).toNat
      let size := scaled (dividend % divisor) least
      if a.negative then -size else size
  | some _, none => if y.isNaN then y else x
  | none, _ => 0.0 / 0.0

end SqlLowering.Binary64
