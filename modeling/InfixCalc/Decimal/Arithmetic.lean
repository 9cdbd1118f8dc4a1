import InfixCalc.Decimal.Rounding

/-!
# Arithmetic on decimals

Each operation gives its exact result, rounded once.  Where the exact result
has too many digits to be written down, a nearby decimal stands in for it that
every mode rounds the same way: digits far below the last one that counts are
replaced by a single trailing one, since only their being there matters.
-/

namespace InfixCalc.Decimal

/-- The coefficient at a lower exponent. -/
def alignedCoefficient
    (coefficient : Nat)
    (exponent target : Int) :
    Nat :=
  coefficient * Nat.pow 10 (exponent - target).toNat

/-- A magnitude with its sign. -/
def signed
    (negative : Bool)
    (magnitude : Nat) :
    Int :=
  if negative then -(magnitude : Int) else magnitude

/-- The exact sum of two finite decimals that are not both zero; an exact zero is `zeroSign`. -/
def exactSum
    (zeroSign : Bool)
    (leftNegative : Bool) (leftCoefficient : Nat) (leftExponent : Int)
    (rightNegative : Bool) (rightCoefficient : Nat) (rightExponent : Int) :
    Decimal :=
  let exponent := min leftExponent rightExponent
  let total :=
    signed leftNegative (alignedCoefficient leftCoefficient leftExponent exponent)
      + signed rightNegative (alignedCoefficient rightCoefficient rightExponent exponent)
  if total = 0 then
    zero zeroSign
  else
    finite (decide (total < 0)) total.natAbs exponent

/-- The power of ten just above a magnitude: `coefficient · 10 ^ exponent < 10 ^ ceiling`. -/
def ceiling
    (coefficient : Nat)
    (exponent : Int) :
    Int :=
  exponent + Text.digitCount coefficient

/--
The place from which on the digits of a second summand no longer count: below
the last digit of the first one and two places below the last digit that the
precision keeps.
-/
def horizon
    (precision : Nat)
    (coefficient : Nat)
    (exponent : Int) :
    Int :=
  min exponent (ceiling coefficient exponent - precision - 2)

/--
A nonzero summand as it counts beside a larger one: itself, or a single one
just below the horizon if all of it lies there.
-/
def besideLarger
    (horizon : Int)
    (coefficient : Nat)
    (exponent : Int) :
    Nat × Int :=
  if ceiling coefficient exponent ≤ horizon then (1, horizon - 1) else (coefficient, exponent)

/--
The rounded sum.  Zeros of two signs, and decimals that cancel, make minus zero
under `floor`.
-/
def add
    (context : Context)
    (left right : Decimal) :
    Decimal :=
  match left, right with
  | nan, _ => nan
  | _, nan => nan
  | infinite leftNegative, infinite rightNegative =>
    if leftNegative = rightNegative then infinite leftNegative else nan
  | infinite negative, finite .. => infinite negative
  | finite .., infinite negative => infinite negative
  | finite leftNegative leftCoefficient leftExponent,
      finite rightNegative rightCoefficient rightExponent =>
    if leftCoefficient = 0 ∧ rightCoefficient = 0 then
      if leftNegative = rightNegative then zero leftNegative
      else zero (context.mode == .floor)
    else if rightCoefficient = 0 then
      round context left
    else if leftCoefficient = 0 then
      round context right
    else
      let leftHorizon := horizon context.precision leftCoefficient leftExponent
      let rightHorizon := horizon context.precision rightCoefficient rightExponent
      let (leftCounted, leftPlace) := besideLarger rightHorizon leftCoefficient leftExponent
      let (rightCounted, rightPlace) := besideLarger leftHorizon rightCoefficient rightExponent
      round context <|
        exactSum (context.mode == .floor)
          leftNegative leftCounted leftPlace
          rightNegative rightCounted rightPlace

/-- The rounded difference: the sum with the second decimal negated. -/
def sub
    (context : Context)
    (left right : Decimal) :
    Decimal :=
  add context left right.negate

/-- The rounded product.  Infinity times zero has no value. -/
def mul
    (context : Context)
    (left right : Decimal) :
    Decimal :=
  match left, right with
  | nan, _ => nan
  | _, nan => nan
  | infinite leftNegative, infinite rightNegative => infinite (leftNegative != rightNegative)
  | infinite leftNegative, finite rightNegative coefficient _ =>
    if coefficient = 0 then nan else infinite (leftNegative != rightNegative)
  | finite leftNegative coefficient _, infinite rightNegative =>
    if coefficient = 0 then nan else infinite (leftNegative != rightNegative)
  | finite leftNegative leftCoefficient leftExponent,
      finite rightNegative rightCoefficient rightExponent =>
    round context <|
      finite (leftNegative != rightNegative)
        (leftCoefficient * rightCoefficient)
        (leftExponent + rightExponent)

/--
A decimal that rounds as `dividend / divisor` does.  The quotient is exact if it
terminates, which it does within as many places as the divisor has bits or not
at all; else it is cut two digits after the precision and a one is added to
stand for the rest.
-/
def quotient
    (precision : Nat)
    (negative : Bool)
    (dividend divisor : Nat)
    (exponent : Int) :
    Decimal :=
  let places := divisor.log2
  if dividend * Nat.pow 10 places % divisor = 0 then
    finite negative (dividend * Nat.pow 10 places / divisor) (exponent - places)
  else
    let scale := precision + 2 + Text.digitCount divisor - Text.digitCount dividend
    finite negative (dividend * Nat.pow 10 scale / divisor * 10 + 1) (exponent - scale - 1)

/-- The rounded quotient.  A divisor of zero gives an infinity, and no value under zero itself. -/
def div
    (context : Context)
    (left right : Decimal) :
    Decimal :=
  match left, right with
  | nan, _ => nan
  | _, nan => nan
  | infinite _, infinite _ => nan
  | infinite leftNegative, finite rightNegative .. => infinite (leftNegative != rightNegative)
  | finite leftNegative .., infinite rightNegative => zero (leftNegative != rightNegative)
  | finite leftNegative dividend leftExponent, finite rightNegative divisor rightExponent =>
    let negative := leftNegative != rightNegative
    if divisor = 0 then
      if dividend = 0 then nan else infinite negative
    else
      round context <|
        quotient context.precision negative dividend divisor (leftExponent - rightExponent)

end InfixCalc.Decimal
