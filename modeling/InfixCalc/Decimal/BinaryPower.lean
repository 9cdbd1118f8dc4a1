import InfixCalc.Decimal.Arithmetic
import InfixCalc.Decimal.OfDouble

/-!
# Powers of two

A numeral in base 16, 8 or 2 may be followed by a power of two.  A power of less
than 54 places either way is the decimal of the double that it is; any other one
is rounded to twenty digits, and then the product is rounded as well.
-/

namespace InfixCalc

/-- Twenty digits, ties away from zero: how powers are rounded, and numerals by themselves. -/
def Context.reading : Context :=
  { Context.standard with mode := .halfUp }

namespace Decimal

/-- The digits that the working of a power keeps, many more than the result has. -/
def workingDigits : Nat := 49

/-- A coefficient and its power of ten, cut to the working digits. -/
def cut
    (coefficient : Nat)
    (exponent : Int) :
    Nat × Int :=
  let excess := Text.digitCount coefficient - workingDigits
  (coefficient / Nat.pow 10 excess, exponent + excess)

/-- A power of two as a coefficient and a power of ten, cut to the working digits. -/
def powerOfTwo (places : Nat) : Nat × Int :=
  if places = 0 then
    (1, 0)
  else
    let (coefficient, exponent) := powerOfTwo (places / 2)
    cut (coefficient * coefficient * (places % 2 + 1)) (2 * exponent)
termination_by places
decreasing_by omega

/-- A power of two of 54 places or more in one direction or the other, rounded. -/
def roundedPower
    (negative : Bool)
    (places : Nat) :
    Decimal :=
  let (coefficient, exponent) := powerOfTwo places
  let power := finite false coefficient exponent
  if negative then div .reading (finite false 1 0) power else round .reading power

/-- The power that a double counts as; an infinite one is infinite or zero. -/
def largePower
    (negative : Bool)
    (places : Double) :
    Decimal :=
  match places.toNat? with
  | some places => (roundedPower negative places).bounded
  | none => if negative then zero false else infinite false

/-- A decimal, multiplied by a power of two as the reader of numerals does it. -/
def timesPowerOfTwo
    (context : Context)
    (value : Decimal)
    (power : Int) :
    Decimal :=
  if value.isZero then
    value
  else if power.natAbs < 54 then
    let factor := Double.ofRatio false (Nat.pow 2 power.toNat) (Nat.pow 2 (-power).toNat)
    match value, ofDouble factor with
    | finite negative coefficient exponent, finite _ multiplier place =>
      finite negative (coefficient * multiplier) (exponent + place)
    | _, _ => value
  else
    (mul context value (largePower (decide (power < 0)) (.ofNat power.natAbs))).bounded

end Decimal

end InfixCalc
