import InfixCalc.Decimal.Basic
import InfixCalc.Text.Numeral

/-!
# Number literals

A literal is a run of digits, two runs with a point between them, or a point
and a run.  `Literal.take` and `Literal.drop` split the longest literal off the
front of a text, and nothing if none stands there.
-/

namespace InfixCalc.Literal

/-- The fraction that a text begins with: a point and at least one digit, else nothing. -/
def takeFraction (text : Text) : Text :=
  match text with
  | [] => []
  | unit :: rest =>
    let digits := rest.takeWhile CodeUnit.isDigit
    if unit == 0x2E && !digits.isEmpty then unit :: digits else []

/-- What follows the fraction that a text begins with. -/
def dropFraction (text : Text) : Text :=
  match text with
  | [] => []
  | unit :: rest =>
    if unit == 0x2E && !(rest.takeWhile CodeUnit.isDigit).isEmpty then
      rest.dropWhile CodeUnit.isDigit
    else
      unit :: rest

/-- The longest literal that a text begins with. -/
def take (text : Text) : Text :=
  text.takeWhile CodeUnit.isDigit ++ takeFraction (text.dropWhile CodeUnit.isDigit)

/-- What follows the longest literal that a text begins with. -/
def drop (text : Text) : Text :=
  dropFraction (text.dropWhile CodeUnit.isDigit)

/-- Whether a text is one literal from end to end. -/
def isLiteral (text : Text) : Bool :=
  !text.isEmpty && (drop text).isEmpty

/-- The exact value of a literal. -/
def value (literal : Text) : Decimal :=
  let whole := literal.takeWhile CodeUnit.isDigit
  let fraction := (literal.dropWhile CodeUnit.isDigit).drop 1
  .finite false (Text.numeralValue (whole ++ fraction)) (-(fraction.length : Int))

theorem takeFraction_append_dropFraction (text : Text) :
    takeFraction text ++ dropFraction text = text := by
  cases text with
  | nil => rfl
  | cons unit rest =>
    simp only [takeFraction, dropFraction]
    split
    · simp
    · simp

theorem take_append_drop (text : Text) : take text ++ drop text = text := by
  rw [take, drop, List.append_assoc, takeFraction_append_dropFraction,
    List.takeWhile_append_dropWhile]

theorem length_drop_lt
    {text : Text}
    (nonempty : take text ≠ []) :
    (drop text).length < text.length := by
  have total := congrArg List.length (take_append_drop text)
  rw [List.length_append] at total
  have := List.length_pos_iff.mpr nonempty
  omega

end InfixCalc.Literal
