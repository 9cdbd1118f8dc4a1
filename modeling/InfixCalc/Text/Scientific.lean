import InfixCalc.Text.Numeral

/-!
# Scientific notation

The parts of a written number: a sign, digits before and after a point, and a
power of ten.  Reading only splits the text; which parts a format demands is
for the format to say.
-/

namespace InfixCalc

/-- The parts of a written number, each of which may be missing. -/
structure Scientific where
  /-- Whether the sign is a minus, if a sign is written. -/
  sign : Option Bool
  /-- The digits before the point. -/
  whole : Text
  /-- The digits after the point, if a point is written. -/
  fraction : Option Text
  /-- The power of ten, if one is written. -/
  exponent : Option Int
  deriving DecidableEq, Repr

namespace Scientific

/-- One sign at the start of a text, and what follows it. -/
def splitSign : Text → Option Bool × Text
  | [] => (none, [])
  | unit :: rest =>
    if unit == 0x2B then (some false, rest)
    else if unit == 0x2D then (some true, rest)
    else (none, unit :: rest)

/-- The power of ten that a text after the exponent mark stands for. -/
def readExponent? (text : Text) : Option Int :=
  let (sign, digits) := splitSign text
  if digits.isEmpty || !digits.all CodeUnit.isDigit then none
  else if sign == some true then some (-(Text.numeralValue digits : Int))
  else some (Text.numeralValue digits)

/-- The parts of a text that is a written number from end to end. -/
def ofText? (text : Text) : Option Scientific :=
  let (sign, body) := splitSign text
  let whole := body.takeWhile CodeUnit.isDigit
  let (fraction, tail) :=
    match body.dropWhile CodeUnit.isDigit with
    | [] => (none, [])
    | unit :: rest =>
      if unit == 0x2E then
        (some (rest.takeWhile CodeUnit.isDigit), rest.dropWhile CodeUnit.isDigit)
      else
        (none, unit :: rest)
  match tail with
  | [] => some ⟨sign, whole, fraction, none⟩
  | mark :: rest =>
    if mark == 0x65 || mark == 0x45 then
      (readExponent? rest).map fun exponent => ⟨sign, whole, fraction, some exponent⟩
    else
      none

/-- Whether the number is written with a minus. -/
def negative (parts : Scientific) : Bool :=
  parts.sign == some true

/-- The digits after the point, none if no point is written. -/
def fractionDigits (parts : Scientific) : Text :=
  parts.fraction.getD []

/-- Whether there is a digit before or after the point. -/
def hasDigits (parts : Scientific) : Bool :=
  !parts.whole.isEmpty || !parts.fractionDigits.isEmpty

/-- The number that all digits stand for when the point is left out. -/
def coefficient (parts : Scientific) : Nat :=
  Text.numeralValue (parts.whole ++ parts.fractionDigits)

/-- The power of ten that the coefficient is multiplied by. -/
def scale (parts : Scientific) : Int :=
  parts.exponent.getD 0 - parts.fractionDigits.length

end Scientific

end InfixCalc
