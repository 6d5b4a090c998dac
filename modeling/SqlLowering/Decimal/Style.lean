import SqlLowering.Binary64
import SqlLowering.Decimal.Shortest

/-!
Written forms of floating-point numbers. The digits are the shortest ones; a style says which
numbers are written without an exponent, whether a whole number keeps a zero after the point, which
way a tie goes, and the words for what is not finite.
-/

namespace SqlLowering.Decimal

/-- The decisions of one written form. -/
structure Style where
  /-- Whether a number of this decimal exponent is written without an exponent. -/
  positional : Int → Bool
  /-- Whether a whole number is written with a zero after the point. -/
  pointZero : Bool
  tie : Tie
  notANumber : String
  infinity : String

/-- Digits with the point after the first `whole` of them, filled with zeros on either side. -/
def withPoint (pointZero : Bool) (digits : List Char) (whole : Int) : List Char :=
  if whole ≤ 0 then
    ['0', '.'] ++ List.replicate (-whole).toNat '0' ++ digits
  else if digits.length ≤ whole.toNat then
    digits ++ List.replicate (whole.toNat - digits.length) '0' ++
      (if pointZero then ['.', '0'] else [])
  else
    digits.take whole.toNat ++ '.' :: digits.drop whole.toNat

/-- Digits with the point after the first of them and the decimal exponent behind. -/
def withExponent (digits : List Char) (exponent : Int) : List Char :=
  let point := if digits.length = 1 then [] else '.' :: digits.drop 1
  let sign := if exponent < 0 then '-' else '+'
  digits.take 1 ++ point ++ 'e' :: sign :: Nat.toDigits 10 exponent.natAbs

/-- The size of a finite number, without its sign. -/
def Style.size (style : Style) (x : Binary64.Finite) : List Char :=
  if x.mantissa = 0 then
    withPoint style.pointZero ['0'] 1
  else
    let narrowBelow := x.mantissa = Nat.pow 2 52 ∧ Binary64.leastExponent < x.exponent
    let numeral := Quarters.shortest ⟨x.mantissa, x.exponent, narrowBelow⟩ style.tie
    let digits := Nat.toDigits 10 numeral.digits
    let exponent := numeral.exponent + digits.length - 1
    if style.positional exponent then withPoint style.pointZero digits (exponent + 1)
    else withExponent digits exponent

/-- A number in a style. -/
def Style.write (style : Style) (x : Float) : String :=
  match Binary64.finite? x with
  | some finite =>
    String.ofList (if finite.negative then '-' :: style.size finite else style.size finite)
  | none =>
    if x.isNaN then style.notANumber
    else if x < 0.0 then "-" ++ style.infinity
    else style.infinity

end SqlLowering.Decimal
