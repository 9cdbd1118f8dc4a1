/-!
# Binary floating-point numbers of 64 bits

A finite double is a sign, a significand below 2 ^ 53 and a power of two.  In
the representation that `Double.ofRatio` builds, the significand has 53 bits or
the exponent is the least one, so equal numbers are equal values.
-/

namespace InfixCalc

/-- `±significand · 2 ^ exponent`, an infinity, or no number. -/
inductive Double where
  | finite (negative : Bool) (significand : Nat) (exponent : Int)
  | infinite (negative : Bool)
  | nan
  deriving DecidableEq, Repr, Inhabited

namespace Double

/-- What every significand is below: 2 to the power 53. -/
def significandBound : Nat := 9007199254740992

/-- The least exponent. -/
def leastExponent : Int := -1074

/-- The greatest exponent. -/
def greatestExponent : Int := 971

/-- Zero with a sign. -/
def zero (negative : Bool) : Double :=
  finite negative 0 leastExponent

/-- `numerator / denominator` rounded to an integer, a half going to the even neighbour. -/
def divideToEven (numerator denominator : Nat) : Nat :=
  let quotient := numerator / denominator
  let remainder := numerator % denominator
  if 2 * remainder > denominator ∨ (2 * remainder = denominator ∧ quotient % 2 = 1) then
    quotient + 1
  else
    quotient

/--
The double nearest to `±numerator / denominator`, a half going to the even
significand, and an infinity from half a step beyond the greatest double on.
-/
def ofRatio
    (negative : Bool)
    (numerator denominator : Nat) :
    Double :=
  if numerator = 0 then
    zero negative
  else
    -- The quotient has one bit more than `estimate`, or exactly as many.
    let estimate : Int := (numerator.log2 : Int) - denominator.log2
    let exponent := max leastExponent (estimate - 53)
    let significandAt (place : Int) : Nat :=
      divideToEven (numerator * Nat.pow 2 (-place).toNat) (denominator * Nat.pow 2 place.toNat)
    let (significand, exponent) :=
      if significandAt exponent < significandBound then (significandAt exponent, exponent)
      else (significandAt (exponent + 1), exponent + 1)
    -- Rounding up may carry into one bit too many.
    let (significand, exponent) :=
      if significand = significandBound then (significandBound / 2, exponent + 1)
      else (significand, exponent)
    if exponent > greatestExponent then infinite negative
    else finite negative significand exponent

/--
The double nearest to `±coefficient · 10 ^ exponent`.  Powers that lead beyond
every double, or below half of the least one, are not worked out.
-/
def ofScientific
    (negative : Bool)
    (coefficient : Nat)
    (exponent : Int) :
    Double :=
  if coefficient = 0 then
    zero negative
  else if exponent > 310 then
    infinite negative
  else if exponent + coefficient.log2 < -330 then
    zero negative
  else
    ofRatio negative (coefficient * Nat.pow 10 exponent.toNat) (Nat.pow 10 (-exponent).toNat)

/-- The double nearest to a natural number. -/
def ofNat (number : Nat) : Double :=
  ofRatio false number 1

/-- The double nearest to an integer. -/
def ofInt (number : Int) : Double :=
  ofRatio (decide (number < 0)) number.natAbs 1

/-- Neither infinite nor without a value. -/
def isFinite : Double → Bool
  | finite .. => true
  | infinite _ => false
  | nan => false

/-- Either of the two zeros. -/
def isZero : Double → Bool
  | finite _ significand _ => significand == 0
  | infinite _ => false
  | nan => false

/-- The numerator of `significand · 2 ^ exponent` as a ratio of natural numbers. -/
def numerator
    (significand : Nat)
    (exponent : Int) :
    Nat :=
  significand * Nat.pow 2 exponent.toNat

/-- The denominator of `significand · 2 ^ exponent` as a ratio of natural numbers. -/
def denominator (exponent : Int) : Nat :=
  Nat.pow 2 (-exponent).toNat

/-- Whether the number has no fraction. -/
def isInteger : Double → Bool
  | finite _ significand exponent =>
    numerator significand exponent % denominator exponent == 0
  | infinite _ => false
  | nan => false

/-- The natural number that the double is, if it is one.  Minus zero is zero. -/
def toNat? : Double → Option Nat
  | finite negative significand exponent =>
    if significand = 0 then some 0
    else if negative then none
    else if numerator significand exponent % denominator exponent = 0 then
      some (numerator significand exponent / denominator exponent)
    else none
  | infinite _ => none
  | nan => none

/-- Whether the number is less than a natural number. -/
def ltNat (number : Double) (bound : Nat) : Bool :=
  match number with
  | finite negative significand exponent =>
    if negative then decide (significand ≠ 0 ∨ 0 < bound)
    else decide (numerator significand exponent < bound * denominator exponent)
  | infinite negative => negative
  | nan => false

/-- Whether a natural number is less than the number. -/
def gtNat (number : Double) (bound : Nat) : Bool :=
  match number with
  | finite negative significand exponent =>
    if negative then false
    else decide (bound * denominator exponent < numerator significand exponent)
  | infinite negative => !negative
  | nan => false

end Double

end InfixCalc
