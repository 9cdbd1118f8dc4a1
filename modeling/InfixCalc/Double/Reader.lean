import InfixCalc.Double.Basic
import InfixCalc.Text.Blank
import InfixCalc.Text.Scientific

/-!
# Reading doubles

Two formats lead to doubles.  A JSON number has a strict grammar and may be
refused; any other text counts as a number by a lenient rule that answers with
no number where it cannot make sense of it.
-/

namespace InfixCalc.Double

/-- The double nearest to a number written in scientific notation. -/
def ofParts (parts : Scientific) : Double :=
  ofScientific parts.negative parts.coefficient parts.scale

/--
Whether the parts are those of a JSON number: no plus sign, at least one digit
before the point, no zero in front of others, and a digit after any point.
-/
def isJsonNumber (parts : Scientific) : Bool :=
  parts.sign != some false
    && !parts.whole.isEmpty
    && (parts.whole.length == 1 || parts.whole.head? != some 0x30)
    && parts.fraction != some []

/-- The double of a JSON number. -/
def ofJsonText? (text : Text) : Option Double :=
  match Scientific.ofText? text with
  | some parts => if isJsonNumber parts then some (ofParts parts) else none
  | none => none

/-- The base that a letter after a leading zero announces. -/
def radix? (letter : CodeUnit) : Option Nat :=
  if letter == 0x78 || letter == 0x58 then some 16
  else if letter == 0x6F || letter == 0x4F then some 8
  else if letter == 0x62 || letter == 0x42 then some 2
  else none

/-- The number of a text such as `0x1F`, `0o17` or `0b11`. -/
def ofRadixText? (text : Text) : Option Double :=
  match text with
  | zero :: letter :: digits =>
    if zero == 0x30 then
      (radix? letter).bind fun base => (Text.readDigits? base digits).map ofNat
    else none
  | _ => none

/-- An infinity spelled out, with or without a sign. -/
def ofInfinityText? (text : Text) : Option Double :=
  let (sign, word) := Scientific.splitSign text
  if word == InfixCalc.text "Infinity" then some (infinite (sign == some true)) else none

/--
The number a text counts as.  Blanks at the ends do not matter, nothing at all
is zero, integers in base 16, 8 and 2 carry a prefix, and what is none of these
and no decimal number is no number.
-/
def ofText (text : Text) : Double :=
  let word := Text.trim text
  if word.isEmpty then
    zero false
  else
    match ofRadixText? word, ofInfinityText? word, Scientific.ofText? word with
    | some number, _, _ => number
    | none, some number, _ => number
    | none, none, some parts => if parts.hasDigits then ofParts parts else nan
    | none, none, none => nan

end InfixCalc.Double
