import InfixCalc.Decimal.Arithmetic

/-!
# Operators

The four binary operators, their ranks and their effect on decimals.  A higher
rank binds tighter; operators of one rank group from left to right.
-/

namespace InfixCalc

/-- Addition, subtraction, multiplication and division. -/
inductive Operator where
  | add
  | sub
  | mul
  | div
  deriving DecidableEq, Repr

namespace Operator

/-- All operators. -/
def all : List Operator := [add, sub, mul, div]

/-- The unit that writes an operator. -/
def symbol : Operator → CodeUnit
  | add => 0x2B
  | sub => 0x2D
  | mul => 0x2A
  | div => 0x2F

/-- The operator that a unit writes. -/
def ofSymbol? (unit : CodeUnit) : Option Operator :=
  all.find? fun operator => operator.symbol == unit

/-- The text of an operator. -/
def toText (operator : Operator) : Text :=
  [operator.symbol]

/-- How tightly an operator binds. -/
def rank : Operator → Nat
  | add => 1
  | sub => 1
  | mul => 2
  | div => 2

/-- The rounded result of an operator. -/
def apply
    (context : Context)
    (operator : Operator)
    (left right : Decimal) :
    Decimal :=
  match operator with
  | add => Decimal.add context left right
  | sub => Decimal.sub context left right
  | mul => Decimal.mul context left right
  | div => Decimal.div context left right

end Operator

end InfixCalc
