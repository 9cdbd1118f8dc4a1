import InfixCalc.Proofs.Decimal.Plain

/-!
# Plain notation is canonical

A number has many representations as a decimal, since a coefficient may end in
zeros, but it is printed in one way only: a zero at the end of a coefficient can be
moved into the exponent without changing the text.  So decimals are printed alike
just if they are equal as numbers.

The text has a fixed form.  Its whole part does not begin with a zero unless it is
a single one, its fraction does not end in a zero, and a sign is there just for
numbers below zero.
-/

namespace InfixCalc

namespace Decimal

/-! ## One text for one number -/

theorem trimFraction_append_zero (digits : Text) :
    trimFraction (digits ++ [0x30]) = trimFraction digits := by
  simp [trimFraction]

theorem withPoint_zero
    {digits : Text}
    (nonempty : digits ≠ []) :
    withPoint digits 0 = digits := by
  have long := List.length_pos_iff.mpr nonempty
  have none : 0 + 1 - digits.length = 0 := by omega
  simp [withPoint, none, trimFraction]

/-- A zero at the end counts for nothing behind the point. -/
theorem withPoint_append_zero
    (digits : Text)
    (places : Nat) :
    withPoint (digits ++ [0x30]) (places + 1) = withPoint digits places := by
  have missing : places + 1 + 1 - (digits ++ [0x30]).length = places + 1 - digits.length := by
    rw [List.length_append, List.length_singleton]
    omega
  simp only [withPoint, missing, ← List.append_assoc]
  generalize List.replicate (places + 1 - digits.length) 0x30 ++ digits = padded
  have start : (padded ++ [0x30]).length - (places + 1) = padded.length - places := by
    rw [List.length_append, List.length_singleton]
    omega
  have inside : padded.length - places ≤ padded.length := Nat.sub_le _ _
  rw [start, List.take_append_of_le_length inside, List.drop_append_of_le_length inside,
    trimFraction_append_zero]

theorem magnitudeText_mul_ten
    {coefficient : Nat}
    (positive : 0 < coefficient)
    (exponent : ℤ) :
    magnitudeText (coefficient * 10) exponent = magnitudeText coefficient (exponent + 1) := by
  rcases exponent with zeros | _ | places
  · rw [magnitudeText, Text.numeral_mul_ten positive, List.append_assoc, List.singleton_append,
      ← List.replicate_succ]
    rfl
  · rw [magnitudeText, Text.numeral_mul_ten positive, withPoint_append_zero,
      withPoint_zero (Text.numeral_ne_nil coefficient)]
    exact (List.append_nil _).symm
  · rw [magnitudeText, Text.numeral_mul_ten positive, withPoint_append_zero]
    rfl

theorem magnitudeText_mul_pow
    {coefficient : Nat}
    (positive : 0 < coefficient)
    (count : Nat)
    (exponent : ℤ) :
    magnitudeText (coefficient * 10 ^ count) exponent
      = magnitudeText coefficient (exponent + count) := by
  induction count generalizing exponent with
  | zero => simp
  | succ count inner =>
    rw [pow_succ, ← mul_assoc, magnitudeText_mul_ten (by positivity), inner]
    congr 1
    push_cast
    ring

/-- Equal magnitudes have one text. -/
theorem magnitudeText_eq
    {first second : Nat}
    {firstExponent secondExponent : ℤ}
    (positive : 0 < second)
    (equal : (first : ℚ) * 10 ^ firstExponent = second * 10 ^ secondExponent)
    (order : firstExponent ≤ secondExponent) :
    magnitudeText first firstExponent = magnitudeText second secondExponent := by
  have nonzero := (ten_zpow_pos firstExponent).ne'
  have multiple : first = second * 10 ^ (secondExponent - firstExponent).toNat := by
    rw [ten_zpow_eq_multiple order, ← mul_assoc] at equal
    have same := mul_right_cancel₀ nonzero equal
    push_cast at same
    exact_mod_cast same
  rw [multiple, magnitudeText_mul_pow positive]
  congr 1
  omega

theorem toRat_neg_iff
    {coefficient : Nat}
    (positive : 0 < coefficient)
    (negative : Bool)
    (exponent : ℤ) :
    (finite negative coefficient exponent).toRat < 0 ↔ negative := by
  have magnitude : (0 : ℚ) < coefficient * 10 ^ exponent :=
    mul_pos (by exact_mod_cast positive) (ten_zpow_pos exponent)
  cases negative with
  | true => simpa [toRat, signed] using magnitude
  | false => simpa [toRat, signed] using magnitude.le

theorem toText_zero_of_toRat
    {value : Decimal}
    (isFinite : value.isFinite)
    (zero : value.toRat = 0) :
    value.toText = [0x30] := by
  rcases exists_finite isFinite with ⟨negative, coefficient, exponent, rfl⟩
  exact if_pos (eq_of_beq ((toRat_eq_zero_iff isFinite).mp zero))

/-- Decimals that stand for one number are printed alike. -/
theorem toText_eq_of_toRat_eq
    {first second : Decimal}
    (firstFinite : first.isFinite)
    (secondFinite : second.isFinite)
    (equal : first.toRat = second.toRat) :
    first.toText = second.toText := by
  by_cases zero : second.toRat = 0
  · rw [toText_zero_of_toRat firstFinite (equal.trans zero),
      toText_zero_of_toRat secondFinite zero]
  · have nonzero := zero
    rw [← equal] at nonzero
    rw [toRat_eq_zero_iff secondFinite] at zero
    rw [toRat_eq_zero_iff firstFinite] at nonzero
    rcases exists_finite firstFinite with ⟨firstNegative, left, firstExponent, rfl⟩
    rcases exists_finite secondFinite with ⟨secondNegative, right, secondExponent, rfl⟩
    have leftNonzero : left ≠ 0 := fun same => nonzero (beq_iff_eq.mpr same)
    have rightNonzero : right ≠ 0 := fun same => zero (beq_iff_eq.mpr same)
    have leftPositive := Nat.pos_of_ne_zero leftNonzero
    have rightPositive := Nat.pos_of_ne_zero rightNonzero
    have sameSign : firstNegative = secondNegative := by
      rw [Bool.eq_iff_iff, ← toRat_neg_iff leftPositive firstNegative firstExponent, equal,
        toRat_neg_iff rightPositive]
    have magnitude := congrArg abs equal
    rw [abs_toRat, abs_toRat] at magnitude
    have sameText : magnitudeText left firstExponent = magnitudeText right secondExponent := by
      rcases le_total firstExponent secondExponent with order | order
      · exact magnitudeText_eq rightPositive magnitude order
      · exact (magnitudeText_eq leftPositive magnitude.symm order).symm
    rw [toText, toText, if_neg leftNonzero, if_neg rightNonzero, sameSign, sameText]

/-- Finite decimals are printed alike just if they are equal as numbers. -/
theorem toText_eq_iff
    {first second : Decimal}
    (firstFinite : first.isFinite)
    (secondFinite : second.isFinite) :
    first.toText = second.toText ↔ first.toRat = second.toRat := by
  constructor
  · intro same
    have number := plainNumber?_toText firstFinite
    rw [same, plainNumber?_toText secondFinite] at number
    exact (Option.some.inj number).symm
  · exact toText_eq_of_toRat_eq firstFinite secondFinite

end Decimal

/-! ## The form of plain notation -/

namespace Text

/-- A single zero, or digits the first of which is not zero. -/
inductive IsWhole : Text → Prop where
  | zero : IsWhole [0x30]
  | digits
      {first : CodeUnit}
      {rest : Text} :
      first.isDigit →
      first ≠ 0x30 →
      (∀ unit ∈ rest, unit.isDigit) →
      IsWhole (first :: rest)

/-- Nothing, or a point and digits the last of which is not zero. -/
inductive IsFraction : Text → Prop where
  | none : IsFraction []
  | digits
      {before : Text}
      {last : CodeUnit} :
      (∀ unit ∈ before, unit.isDigit) →
      last.isDigit →
      last ≠ 0x30 →
      IsFraction (0x2E :: (before ++ [last]))

/-- A whole part and a fraction, perhaps behind a sign. -/
inductive IsPlain : Text → Prop where
  | unsigned
      {whole fraction : Text} :
      IsWhole whole →
      IsFraction fraction →
      IsPlain (whole ++ fraction)
  | signed
      {whole fraction : Text} :
      IsWhole whole →
      IsFraction fraction →
      IsPlain (0x2D :: (whole ++ fraction))

/-- Digits in front of which no zero stands are a whole part. -/
theorem isWhole_of_digits
    {digits : Text}
    (nonempty : digits ≠ [])
    (digit : ∀ unit ∈ digits, unit.isDigit)
    (head : digits.head? ≠ some 0x30) :
    IsWhole digits := by
  cases digits with
  | nil => exact (nonempty rfl).elim
  | cons first rest =>
    rcases List.forall_mem_cons.mp digit with ⟨firstDigit, restDigits⟩
    exact .digits firstDigit (fun zero => head (congrArg some zero)) restDigits

end Text

namespace Decimal

open Text (IsWhole IsFraction IsPlain)

/-- What is left of a fraction with its point, if anything is left. -/
theorem isFraction_trimFraction
    {digits : Text}
    (digit : ∀ unit ∈ digits, unit.isDigit) :
    IsFraction (if (trimFraction digits).isEmpty then [] else 0x2E :: trimFraction digits) := by
  split
  · exact .none
  · rename_i notEmpty
    have nonempty : trimFraction digits ≠ [] := by simpa using notEmpty
    have kept : ∀ unit ∈ trimFraction digits, unit.isDigit := by
      intro unit member
      rw [trimFraction, List.mem_reverse] at member
      exact digit unit (List.mem_reverse.mp ((List.dropWhile_sublist _).subset member))
    have last : (trimFraction digits).getLast nonempty ≠ 0x30 := by
      intro zero
      have stopped := List.head?_dropWhile_not (fun unit : CodeUnit => unit == 0x30) digits.reverse
      rw [← List.getLast?_reverse, ← trimFraction, List.getLast?_eq_some_getLast nonempty, zero]
        at stopped
      exact absurd stopped (by decide)
    rw [← List.dropLast_append_getLast nonempty] at kept ⊢
    rcases List.forall_mem_append.mp kept with ⟨before, lastDigit⟩
    exact .digits before (lastDigit _ List.mem_cons_self) last

theorem isWhole_take_padded
    {digits : Text}
    (digit : ∀ unit ∈ digits, unit.isDigit)
    (head : digits.head? ≠ some 0x30)
    (places : Nat) :
    IsWhole
      ((List.replicate (places + 1 - digits.length) 0x30 ++ digits).take
        ((List.replicate (places + 1 - digits.length) 0x30 ++ digits).length - places)) := by
  rcases Nat.lt_or_ge places digits.length with long | short
  · -- Nothing is padded, and the first digit is one of the whole part.
    have count : places + 1 - digits.length = 0 := by omega
    rw [count, List.replicate_zero, List.nil_append]
    apply Text.isWhole_of_digits
    · apply List.ne_nil_of_length_pos
      rw [List.length_take]
      omega
    · exact fun unit member => digit unit (List.mem_of_mem_take member)
    · rw [List.head?_take, if_neg (by omega)]
      exact head
  · -- The padding is the whole part and the zeros that the fraction begins with.
    obtain ⟨more, count⟩ : ∃ more, places + 1 - digits.length = more + 1 :=
      ⟨places - digits.length, by omega⟩
    have one : (List.replicate (more + 1) 0x30 ++ digits).length - places = 1 := by
      rw [List.length_append, List.length_replicate]
      omega
    rw [count, one]
    exact .zero

theorem isPlain_magnitudeText
    {coefficient : Nat}
    (positive : 0 < coefficient)
    (exponent : ℤ) :
    ∃ whole fraction,
      magnitudeText coefficient exponent = whole ++ fraction ∧
        IsWhole whole ∧ IsFraction fraction := by
  have nonempty := Text.numeral_ne_nil coefficient
  have digit : ∀ unit ∈ Text.numeral coefficient, unit.isDigit :=
    fun unit => Text.isDigit_of_mem_numeral
  have head := Text.head?_numeral_ne_zero positive
  cases exponent with
  | ofNat zeros =>
    have whole : IsWhole (Text.numeral coefficient ++ List.replicate zeros 0x30) := by
      apply Text.isWhole_of_digits
      · simp [nonempty]
      · intro unit member
        rcases List.mem_append.mp member with numeral | zero
        · exact digit unit numeral
        · exact Text.isDigit_of_mem_zeros zero
      · rwa [List.head?_append_of_ne_nil _ nonempty]
    exact ⟨_, [], (List.append_nil _).symm, whole, .none⟩
  | negSucc places =>
    have whole := isWhole_take_padded digit head (places + 1)
    rw [magnitudeText, withPoint]
    generalize equal : List.replicate (places + 1 + 1 - (Text.numeral coefficient).length) 0x30
      ++ Text.numeral coefficient = padded at whole ⊢
    have fractionDigit : ∀ unit ∈ padded.drop (padded.length - (places + 1)), unit.isDigit := by
      intro unit member
      have inside := List.mem_of_mem_drop member
      rw [← equal] at inside
      rcases List.mem_append.mp inside with zero | numeral
      · exact Text.isDigit_of_mem_zeros zero
      · exact digit unit numeral
    refine ⟨_, _, ?_, whole, isFraction_trimFraction fractionDigit⟩
    split <;> simp

/-- A number below zero has a sign in front of its magnitude, and no other number has one. -/
theorem toText_cases
    {value : Decimal}
    (isFinite : value.isFinite) :
    (value.toText = [0x30] ∧ value.toRat = 0) ∨
      ∃ coefficient exponent,
        0 < coefficient ∧
          ((value.toText = magnitudeText coefficient exponent ∧
              value.toRat = coefficient * 10 ^ exponent) ∨
            (value.toText = 0x2D :: magnitudeText coefficient exponent ∧
              value.toRat = -(coefficient * 10 ^ exponent))) := by
  rcases exists_finite isFinite with ⟨negative, coefficient, exponent, rfl⟩
  rcases Nat.eq_zero_or_pos coefficient with rfl | positive
  · exact .inl ⟨rfl, toRat_finite_zero negative exponent⟩
  · refine .inr ⟨coefficient, exponent, positive, ?_⟩
    rw [toText, if_neg positive.ne']
    cases negative with
    | false => exact .inl ⟨rfl, by simp [toRat, signed]⟩
    | true => exact .inr ⟨rfl, by simp [toRat, signed]⟩

/-- What is printed has the form of plain notation. -/
theorem isPlain_toText
    {value : Decimal}
    (isFinite : value.isFinite) :
    IsPlain value.toText := by
  rcases toText_cases isFinite with
    ⟨zero, _⟩ | ⟨coefficient, exponent, positive, ⟨unsigned, _⟩ | ⟨signed, _⟩⟩
  · rw [zero]
    exact .unsigned .zero .none
  · rcases isPlain_magnitudeText positive exponent with
      ⟨whole, fraction, parts, wholeForm, fractionForm⟩
    rw [unsigned, parts]
    exact .unsigned wholeForm fractionForm
  · rcases isPlain_magnitudeText positive exponent with
      ⟨whole, fraction, parts, wholeForm, fractionForm⟩
    rw [signed, parts]
    exact .signed wholeForm fractionForm

/-- What is not below zero is printed as a literal. -/
theorem number?_toText_of_nonneg
    {value : Decimal}
    (isFinite : value.isFinite)
    (nonneg : 0 ≤ value.toRat) :
    Literal.number? value.toText = some value.toRat := by
  rcases toText_cases isFinite with
    ⟨zero, number⟩ | ⟨coefficient, exponent, positive, ⟨unsigned, number⟩ | ⟨_, number⟩⟩
  · rw [zero, number, number?_zero]
  · rw [unsigned, number, number?_magnitudeText]
  · have magnitude : (0 : ℚ) < coefficient * 10 ^ exponent :=
      mul_pos (by exact_mod_cast positive) (ten_zpow_pos exponent)
    rw [number] at nonneg
    linarith

/-- What is below zero is printed as a literal behind a sign. -/
theorem number?_toText_of_neg
    {value : Decimal}
    (isFinite : value.isFinite)
    (negative : value.toRat < 0) :
    ∃ magnitude,
      value.toText = 0x2D :: magnitude ∧ Literal.number? magnitude = some (-value.toRat) := by
  rcases toText_cases isFinite with
    ⟨_, number⟩ | ⟨coefficient, exponent, positive, ⟨_, number⟩ | ⟨signed, number⟩⟩
  · exact absurd number negative.ne
  · have magnitude : (0 : ℚ) < coefficient * 10 ^ exponent :=
      mul_pos (by exact_mod_cast positive) (ten_zpow_pos exponent)
    linarith
  · refine ⟨_, signed, ?_⟩
    rw [number, number?_magnitudeText, neg_neg]

/-- No zero has a sign. -/
theorem toText_ne_signed_zero
    {value : Decimal}
    (isFinite : value.isFinite) :
    value.toText ≠ text "-0" := by
  intro printed
  have number := plainNumber?_toText isFinite
  have zero : Text.plainNumber? (text "-0") = some 0 := by
    rw [show text "-0" = 0x2D :: [0x30] from rfl, Text.plainNumber?, if_pos rfl, number?_zero]
    simp
  rw [printed, zero] at number
  rw [toText_zero_of_toRat isFinite (Option.some.inj number).symm] at printed
  exact absurd printed (by decide)

end Decimal

end InfixCalc
