import InfixCalc.Decimal.Basic
import InfixCalc.Text.Numeral

/-!
# Plain notation

Decimals are written without an exponent, with no zero at the end of a fraction,
with one zero in front of the point where there is no other digit, and with no
sign on zero.
-/

namespace InfixCalc.Decimal

/-- The digits after a point, without the zeros at their end. -/
def trimFraction (digits : Text) : Text :=
  (digits.reverse.dropWhile (· == 0x30)).reverse

/-- The digits of a numeral with a point before the last `places` of them. -/
def withPoint
    (digits : Text)
    (places : Nat) :
    Text :=
  let padded := List.replicate (places + 1 - digits.length) 0x30 ++ digits
  let whole := padded.take (padded.length - places)
  let fraction := trimFraction (padded.drop (padded.length - places))
  if fraction.isEmpty then whole else whole ++ 0x2E :: fraction

/-- A magnitude in plain notation. -/
def magnitudeText
    (coefficient : Nat)
    (exponent : Int) :
    Text :=
  match exponent with
  | .ofNat zeros => Text.numeral coefficient ++ List.replicate zeros 0x30
  | .negSucc places => withPoint (Text.numeral coefficient) (places + 1)

/-- The decimal in plain notation. -/
def toText : Decimal → Text
  | finite negative coefficient exponent =>
    if coefficient = 0 then
      [0x30]
    else
      (if negative then [0x2D] else []) ++ magnitudeText coefficient exponent
  | infinite negative => if negative then text "-Infinity" else text "Infinity"
  | nan => text "NaN"

end InfixCalc.Decimal
