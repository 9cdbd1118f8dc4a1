import InfixCalc.Double.Basic
import InfixCalc.Text.Numeral

/-!
# The shortest text of a double

A double is written with the fewest digits that read back as the same double,
the nearest of those where there are several.  The point is written out where
it stands at most 21 digits to the right or 6 to the left of the first digit;
beyond that the number has an exponent with a sign.
-/

namespace InfixCalc.Double

/-- How many digits a ratio has before its point; negative for zeros after it. -/
def pointPlace (numerator denominator : Nat) : Int :=
  let difference : Int := Text.digitCount numerator - Text.digitCount denominator
  if denominator * Nat.pow 10 difference.toNat ≤ numerator * Nat.pow 10 (-difference).toNat then
    difference + 1
  else
    difference

/--
The coefficient of `count` digits that reads back as the given double and is
nearest to it.  If any coefficient on this grid reads back, one of the two
neighbours of the exact value does.
-/
def coefficientOf?
    (significand : Nat)
    (exponent : Int)
    (count : Nat) :
    Option (Nat × Int) :=
  let place := pointPlace (numerator significand exponent) (denominator exponent) - count
  let scaledNumerator := numerator significand exponent * Nat.pow 10 (-place).toNat
  let scaledDenominator := denominator exponent * Nat.pow 10 place.toNat
  let below := scaledNumerator / scaledDenominator
  let remainder := scaledNumerator % scaledDenominator
  let readsBack (coefficient : Nat) : Bool :=
    ofScientific false coefficient place == finite false significand exponent
  let belowNearer :=
    2 * remainder < scaledDenominator
      ∨ (2 * remainder = scaledDenominator ∧ below % 2 = 0)
  let (nearer, farther) := if belowNearer then (below, below + 1) else (below + 1, below)
  if readsBack nearer then some (nearer, place)
  else if readsBack farther then some (farther, place)
  else none

/--
The shortest coefficient and its power of ten.  Seventeen digits tell any two
doubles apart, so the search always ends with a hit.
-/
def shortest
    (significand : Nat)
    (exponent : Int) :
    Nat × Int :=
  ((List.range 17).findSome? fun count => coefficientOf? significand exponent (count + 1)).getD
    (significand, exponent)

/-- The digits of a coefficient without the zeros at its end, and how many those were. -/
def significantDigits (coefficient : Nat) : Text × Nat :=
  let reversed := (Text.numeral coefficient).reverse
  let digits := reversed.dropWhile (· == 0x30)
  (digits.reverse, reversed.length - digits.length)

/-- The text of a nonzero magnitude. -/
def magnitudeText
    (coefficient : Nat)
    (power : Int) :
    Text :=
  let (digits, zeros) := significantDigits coefficient
  let length : Int := digits.length
  -- The value is `0.digits · 10 ^ point`.
  let point := power + zeros + length
  if length ≤ point ∧ point ≤ 21 then
    digits ++ List.replicate (point - length).toNat 0x30
  else if 0 < point ∧ point ≤ 21 then
    digits.take point.toNat ++ 0x2E :: digits.drop point.toNat
  else if -6 < point ∧ point ≤ 0 then
    0x30 :: 0x2E :: (List.replicate (-point).toNat 0x30 ++ digits)
  else
    let mantissa :=
      if digits.length ≤ 1 then digits
      else digits.take 1 ++ 0x2E :: digits.drop 1
    let exponentSign : CodeUnit := if point - 1 < 0 then 0x2D else 0x2B
    mantissa ++ 0x65 :: exponentSign :: Text.numeral (point - 1).natAbs

/-- The text of a double.  Both zeros are `0`. -/
def toText : Double → Text
  | finite negative significand exponent =>
    if significand = 0 then
      [0x30]
    else
      let (coefficient, power) := shortest significand exponent
      (if negative then [0x2D] else []) ++ magnitudeText coefficient power
  | infinite negative => if negative then text "-Infinity" else text "Infinity"
  | nan => text "NaN"

end InfixCalc.Double
