import InfixCalc.Decimal.Basic
import InfixCalc.Double.Printer

/-!
# Decimals of doubles

A double counts as the decimal that it is written as, which has the fewest digits
that tell it from all other doubles.
-/

namespace InfixCalc.Decimal

/-- The decimal whose digits are the shortest ones of a double. -/
def ofDouble (number : Double) : Decimal :=
  match number with
  | .finite negative significand exponent =>
    if significand = 0 then
      zero negative
    else
      let (coefficient, power) := Double.shortest significand exponent
      finite negative coefficient power
  | .infinite negative => infinite negative
  | .nan => nan

end InfixCalc.Decimal
