import InfixCalc.Text

/-!
# Blanks

The white space that separates words: the five ASCII controls from tabulator to
carriage return, the space separators, the two line separators and the byte
order mark.
-/

namespace InfixCalc

/-- White space and line ends. -/
def CodeUnit.isBlank (unit : CodeUnit) : Bool :=
  (0x0009 ≤ unit && unit ≤ 0x000D) || unit == 0x0020 || unit == 0x00A0
    || unit == 0x1680 || (0x2000 ≤ unit && unit ≤ 0x200A) || unit == 0x2028
    || unit == 0x2029 || unit == 0x202F || unit == 0x205F || unit == 0x3000
    || unit == 0xFEFF

namespace Text

/-- The text without the blanks at its two ends. -/
def trim (text : Text) : Text :=
  ((text.dropWhile CodeUnit.isBlank).reverse.dropWhile CodeUnit.isBlank).reverse

/-- A text of blanks only, the empty text included. -/
def isBlank (text : Text) : Bool :=
  text.all CodeUnit.isBlank

end Text

end InfixCalc
