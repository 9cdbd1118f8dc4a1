import InfixCalc.Decimal.Printer
import InfixCalc.Proofs.Decimal.Rounding
import InfixCalc.Proofs.Text.Numeral
import InfixCalc.Proofs.Token.Written

/-!
# Plain notation is exact

What is printed of a decimal is a literal, with a sign in front of it or not, and
it stands for the same number as the decimal.  Zeros in front of the digits and
zeros that are trimmed from a fraction count for nothing.
-/

namespace InfixCalc

/-! ## Literals as numbers -/

namespace Literal

/-- The number that a literal stands for. -/
def number? (written : Text) : Option ℚ :=
  if isLiteral written then some (value written).toRat else none

theorem number?_whole
    {digits : Text}
    (digit : ∀ unit ∈ digits, unit.isDigit)
    (nonempty : digits ≠ []) :
    number? digits = some (Text.numeralValue digits : ℚ) := by
  have stops : ∀ unit ∈ ([] : Text).head?, unit.isDigit = false := by simp
  have taken := takeWhile_digits digit stops
  have dropped := dropWhile_digits digit stops
  rw [List.append_nil] at taken dropped
  rw [number?, if_pos (isLiteral_iff.mpr (.whole digit nonempty)), value, taken, dropped]
  simp [Decimal.toRat, Decimal.signed]

theorem number?_fraction
    {whole digits : Text}
    (wholeDigit : ∀ unit ∈ whole, unit.isDigit)
    (digit : ∀ unit ∈ digits, unit.isDigit)
    (nonempty : digits ≠ []) :
    number? (whole ++ 0x2E :: digits)
      = some (Text.numeralValue (whole ++ digits) / 10 ^ digits.length : ℚ) := by
  have point : ∀ unit ∈ (0x2E :: digits).head?, unit.isDigit = false := by
    rintro unit ⟨⟩
    rfl
  rw [number?, if_pos (isLiteral_iff.mpr (.fraction wholeDigit digit nonempty)), value,
    takeWhile_digits wholeDigit point, dropWhile_digits wholeDigit point, List.drop_one,
    List.tail_cons, Decimal.toRat, Decimal.signed_false, zpow_neg, zpow_natCast, Int.cast_natCast,
    div_eq_mul_inv]

/-- The number that a literal stands for, its fraction counted by the places it has. -/
inductive Denotes : Text → ℚ → Prop where
  | whole
      {digits : Text} :
      (∀ unit ∈ digits, unit.isDigit) →
      digits ≠ [] →
      Denotes digits (Text.numeralValue digits)
  | fraction
      {whole digits : Text} :
      (∀ unit ∈ whole, unit.isDigit) →
      (∀ unit ∈ digits, unit.isDigit) →
      digits ≠ [] →
      Denotes (whole ++ 0x2E :: digits)
        (Text.numeralValue whole + Text.numeralValue digits / 10 ^ digits.length)

theorem toRat_value_of_number?
    {literal : Text}
    {number : ℚ}
    (read : number? literal = some number) :
    (value literal).toRat = number := by
  unfold number? at read
  split at read
  · exact Option.some.inj read
  · cases read

theorem Written.denotes
    {literal : Text}
    (written : Written literal) :
    Denotes literal (value literal).toRat := by
  cases written with
  | whole digit nonempty =>
    rw [toRat_value_of_number? (number?_whole digit nonempty)]
    exact .whole digit nonempty
  | @fraction whole digits wholeDigit digit nonempty =>
    rw [toRat_value_of_number? (number?_fraction wholeDigit digit nonempty),
      Text.numeralValue_append]
    push_cast
    rw [add_div, mul_div_cancel_right₀ _ (by positivity)]
    exact .fraction wholeDigit digit nonempty

end Literal

/-! ## Printed decimals -/

/-- The number that a text in plain notation stands for. -/
def Text.plainNumber? (written : Text) : Option ℚ :=
  match written with
  | [] => none
  | unit :: magnitude =>
    if unit = 0x2D then (Literal.number? magnitude).map fun number => -number
    else Literal.number? written

/-- A literal is its own plain notation, since none begins with a sign. -/
theorem Text.plainNumber?_of_number?
    {written : Text}
    {number : ℚ}
    (literal : Literal.number? written = some number) :
    plainNumber? written = some number := by
  have isLiteral : Literal.isLiteral written := by
    unfold Literal.number? at literal
    split at literal
    · assumption
    · cases literal
  cases written with
  | nil => cases isLiteral
  | cons unit magnitude =>
    have first := (Literal.isLiteral_iff.mp isLiteral).head
    have unsigned : unit ≠ 0x2D := by
      rintro rfl
      exact absurd first (by decide)
    rw [plainNumber?, if_neg unsigned, literal]

namespace Decimal

theorem trimFraction_append_zeros (digits : Text) :
    ∃ count, trimFraction digits ++ List.replicate count 0x30 = digits :=
  ⟨_, Text.append_trailing_zeros digits⟩

/-- The zeros at the end of a fraction, and a point with nothing behind it, may be left out. -/
theorem number?_trimmed
    {whole fraction : Text}
    (wholeDigit : ∀ unit ∈ whole, unit.isDigit)
    (digit : ∀ unit ∈ fraction, unit.isDigit)
    (nonempty : whole ≠ []) :
    Literal.number?
        (if (trimFraction fraction).isEmpty then whole else whole ++ 0x2E :: trimFraction fraction)
      = some (Text.numeralValue (whole ++ fraction) / 10 ^ fraction.length : ℚ) := by
  rcases trimFraction_append_zeros fraction with ⟨count, trimmed⟩
  generalize trimFraction fraction = kept at trimmed ⊢
  have value : (Text.numeralValue (whole ++ fraction) : ℚ) / 10 ^ fraction.length
      = Text.numeralValue (whole ++ kept) / 10 ^ kept.length := by
    rw [← trimmed, ← List.append_assoc, Text.numeralValue_append, Text.numeralValue_zeros,
      List.length_append, List.length_replicate, pow_add]
    push_cast
    field_simp
    ring
  rw [value]
  split
  · rename_i empty
    rw [List.isEmpty_iff.mp empty, List.append_nil, List.length_nil, pow_zero, div_one]
    exact Literal.number?_whole wholeDigit nonempty
  · rename_i notEmpty
    apply Literal.number?_fraction wholeDigit
    · intro unit member
      apply digit unit
      rw [← trimmed]
      exact List.mem_append_left _ member
    · simpa using notEmpty

theorem number?_withPoint
    {digits : Text}
    (digit : ∀ unit ∈ digits, unit.isDigit)
    (places : Nat) :
    Literal.number? (withPoint digits places)
      = some (Text.numeralValue digits / 10 ^ places : ℚ) := by
  rw [withPoint]
  generalize equal : List.replicate (places + 1 - digits.length) 0x30 ++ digits = padded
  have paddedDigit : ∀ unit ∈ padded, unit.isDigit := by
    intro unit member
    rw [← equal] at member
    rcases List.mem_append.mp member with zero | later
    · exact Text.isDigit_of_mem_zeros zero
    · exact digit unit later
  have paddedValue : Text.numeralValue padded = Text.numeralValue digits := by
    rw [← equal, Text.numeralValue_append, Text.numeralValue_zeros, Nat.zero_mul, Nat.zero_add]
  have long : places + 1 ≤ padded.length := by
    rw [← equal, List.length_append, List.length_replicate]
    omega
  have wholeDigit : ∀ unit ∈ padded.take (padded.length - places), unit.isDigit :=
    fun unit member => paddedDigit unit (List.mem_of_mem_take member)
  have fractionDigit : ∀ unit ∈ padded.drop (padded.length - places), unit.isDigit :=
    fun unit member => paddedDigit unit (List.mem_of_mem_drop member)
  -- The padding has left a digit in front of the point.
  have nonempty : padded.take (padded.length - places) ≠ [] := by
    apply List.ne_nil_of_length_pos
    rw [List.length_take]
    omega
  have trimmed := number?_trimmed wholeDigit fractionDigit nonempty
  rwa [List.take_append_drop, paddedValue, List.length_drop, Nat.sub_sub_self (by omega)]
    at trimmed

theorem number?_magnitudeText
    (coefficient : Nat)
    (exponent : ℤ) :
    Literal.number? (magnitudeText coefficient exponent)
      = some (coefficient * 10 ^ exponent : ℚ) := by
  have digit : ∀ unit ∈ Text.numeral coefficient, unit.isDigit :=
    fun unit => Text.isDigit_of_mem_numeral
  cases exponent with
  | ofNat zeros =>
    rw [magnitudeText, Literal.number?_whole]
    · rw [Text.numeralValue_append, Text.numeralValue_zeros, Text.numeralValue_numeral,
        List.length_replicate]
      simp
    · intro unit member
      rcases List.mem_append.mp member with numeral | zero
      · exact digit unit numeral
      · exact Text.isDigit_of_mem_zeros zero
    · simp [Text.numeral_ne_nil]
  | negSucc places =>
    rw [magnitudeText, number?_withPoint digit, Text.numeralValue_numeral, zpow_negSucc,
      div_eq_mul_inv]

theorem number?_zero : Literal.number? [0x30] = some 0 := by
  rw [Literal.number?_whole (List.forall_mem_singleton.mpr rfl) (List.cons_ne_nil _ _)]
  rfl

/-- What is printed stands for the number that was there. -/
theorem plainNumber?_toText
    {value : Decimal}
    (isFinite : value.isFinite) :
    Text.plainNumber? value.toText = some value.toRat := by
  rcases exists_finite isFinite with ⟨negative, coefficient, exponent, rfl⟩
  have magnitude := number?_magnitudeText coefficient exponent
  rw [toText]
  split
  · rename_i zero
    rw [zero, toRat_finite_zero]
    exact Text.plainNumber?_of_number? number?_zero
  · cases negative with
    | true =>
      rw [if_pos rfl, List.singleton_append, Text.plainNumber?, if_pos rfl, magnitude, toRat,
        signed_true]
      simp
    | false =>
      rw [if_neg Bool.false_ne_true, List.nil_append, Text.plainNumber?_of_number? magnitude, toRat,
        signed_false, Int.cast_natCast]

/-- Only the zeros are printed as a zero. -/
theorem isZero_of_toText_zero
    {value : Decimal}
    (isFinite : value.isFinite)
    (printed : value.toText = text "0") :
    value.isZero := by
  have number := plainNumber?_toText isFinite
  rw [printed, show text "0" = [0x30] from rfl, Text.plainNumber?_of_number? number?_zero] at number
  rw [← toRat_eq_zero_iff isFinite, Option.some.inj number]

end Decimal

end InfixCalc
