/-!
# Decimals

A finite decimal is a sign, a coefficient and a power of ten; beside the finite
ones there are two infinities and one value for a result that is no number.
Zero keeps the sign it was computed with, and a coefficient may end in zeros,
so one number has many representations; `Decimal.toText` is the same for all
of them.
-/

namespace InfixCalc

/-- `±coefficient · 10 ^ exponent`, an infinity, or no number. -/
inductive Decimal where
  | finite (negative : Bool) (coefficient : Nat) (exponent : Int)
  | infinite (negative : Bool)
  | nan
  deriving DecidableEq, Repr, Inhabited

namespace Decimal

/-- Either of the two zeros, whatever its exponent. -/
def isZero : Decimal → Bool
  | finite _ coefficient _ => coefficient == 0
  | infinite _ => false
  | nan => false

/-- Neither infinite nor without a value. -/
def isFinite : Decimal → Bool
  | finite .. => true
  | infinite _ => false
  | nan => false

/-- The same magnitude with the other sign. -/
def negate : Decimal → Decimal
  | finite negative coefficient exponent => finite (!negative) coefficient exponent
  | infinite negative => infinite (!negative)
  | nan => nan

/-- Zero with a sign. -/
def zero (negative : Bool) : Decimal :=
  finite negative 0 0

end Decimal

end InfixCalc
