import InfixCalc.Text.Numeral
import Mathlib.Data.List.Induction
import Mathlib.Tactic.Ring

/-!
# Numerals and their lengths

A run of digits is read place by place, so an append of two runs is the value of
the one shifted by the length of the other.  A numeral is as long as the powers of
ten that its number reaches, it does not begin with a zero, and every factor of ten
is one zero at its end.
-/

namespace InfixCalc.Text

/-! ## The value of a run of digits -/

theorem foldl_digits
    (start : Nat)
    (digits : Text) :
    digits.foldl (fun value unit => value * 10 + unit.digit) start
      = start * 10 ^ digits.length + numeralValue digits := by
  induction digits generalizing start with
  | nil => simp [numeralValue]
  | cons unit rest inner =>
    rw [numeralValue, List.foldl_cons, List.foldl_cons, inner, inner (0 * 10 + unit.digit),
      List.length_cons]
    ring

theorem numeralValue_append (first second : Text) :
    numeralValue (first ++ second)
      = numeralValue first * 10 ^ second.length + numeralValue second := by
  rw [numeralValue, List.foldl_append, foldl_digits]
  rfl

theorem digit_lt_of_isDigit
    {unit : CodeUnit}
    (digit : unit.isDigit) :
    unit.digit < 10 := by
  simp only [CodeUnit.isDigit, Bool.and_eq_true, decide_eq_true_eq, UInt16.le_iff_toNat_le,
    UInt16.reduceToNat] at digit
  rw [CodeUnit.digit]
  omega

/-- A run of digits is worth less than the power of ten that has one more. -/
theorem numeralValue_lt
    {digits : Text}
    (digit : ∀ unit ∈ digits, unit.isDigit) :
    numeralValue digits < 10 ^ digits.length := by
  induction digits using List.reverseRecOn with
  | nil => exact Nat.one_pos
  | append_singleton before last inner =>
    rcases List.forall_mem_append.mp digit with ⟨beforeDigits, lastDigit⟩
    have less := inner beforeDigits
    have small := digit_lt_of_isDigit (lastDigit last List.mem_cons_self)
    have alone : numeralValue [last] = last.digit := by simp [numeralValue]
    rw [numeralValue_append, alone, List.length_append, List.length_singleton, pow_one, pow_succ]
    omega

theorem numeralValue_zeros (count : Nat) : numeralValue (List.replicate count 0x30) = 0 := by
  induction count with
  | zero => rfl
  | succ count inner =>
    rw [List.replicate_succ', numeralValue_append, inner]
    rfl

theorem isDigit_of_mem_zeros
    {count : Nat}
    {unit : CodeUnit}
    (member : unit ∈ List.replicate count 0x30) :
    unit.isDigit := by
  rw [List.eq_of_mem_replicate member]
  rfl

theorem isDigit_digitUnit
    {digit : Nat}
    (small : digit < 10) :
    (digitUnit digit).isDigit := by
  have every : ∀ digit : Fin 10, (digitUnit digit).isDigit := by decide
  exact every ⟨digit, small⟩

theorem isDigit_of_mem_numeral
    {number : Nat}
    {unit : CodeUnit}
    (member : unit ∈ numeral number) :
    unit.isDigit := by
  unfold numeral at member
  split at member
  · rw [← List.replicate_one] at member
    exact isDigit_of_mem_zeros member
  · rw [List.mem_reverse, List.mem_map] at member
    rcases member with ⟨digit, digitMember, rfl⟩
    exact isDigit_digitUnit (lt_of_mem_reversedDigits digitMember)

theorem numeral_ne_nil (number : Nat) : numeral number ≠ [] := by
  unfold numeral
  split
  · simp
  · rename_i nonzero
    unfold reversedDigits
    simp [nonzero]

/-! ## The form of a numeral -/

theorem numeral_of_pos
    {number : Nat}
    (positive : 0 < number) :
    numeral number = ((reversedDigits number).map digitUnit).reverse :=
  if_neg positive.ne'

/-- Ten times as much has one more zero. -/
theorem numeral_mul_ten
    {number : Nat}
    (positive : 0 < number) :
    numeral (number * 10) = numeral number ++ [0x30] := by
  have more : 0 < number * 10 := by omega
  rw [numeral_of_pos more, numeral_of_pos positive, reversedDigits, if_neg more.ne',
    Nat.mul_mod_left, Nat.mul_div_cancel _ (by decide), List.map_cons, List.reverse_cons]
  rfl

theorem getLast?_reversedDigits_ne_zero (number : Nat) :
    (reversedDigits number).getLast? ≠ some 0 := by
  fun_induction reversedDigits number with
  | case1 => simp
  | case2 number nonzero inner =>
    rw [List.getLast?_cons]
    cases last : (reversedDigits (number / 10)).getLast? with
    | none =>
      -- There is no further digit, so that the only one is the number itself.
      rw [List.getLast?_eq_none_iff, reversedDigits] at last
      split at last
      · rename_i small
        simp only [Option.getD_none, ne_eq, Option.some.injEq]
        omega
      · cases last
    | some digit =>
      rw [last] at inner
      exact inner

/-- No numeral begins with a zero, that of zero apart. -/
theorem head?_numeral_ne_zero
    {number : Nat}
    (positive : 0 < number) :
    (numeral number).head? ≠ some 0x30 := by
  rw [numeral_of_pos positive, List.head?_reverse, List.getLast?_map]
  intro zero
  rcases Option.map_eq_some_iff.mp zero with ⟨digit, last, isZero⟩
  have small := lt_of_mem_reversedDigits (List.mem_of_getLast? last)
  have value := digit_digitUnit small
  rw [isZero] at value
  rw [← value] at last
  exact getLast?_reversedDigits_ne_zero number last

/-- A power of ten is so many zeros. -/
theorem numeral_mul_pow
    {number : Nat}
    (positive : 0 < number)
    (count : Nat) :
    numeral (number * 10 ^ count) = numeral number ++ List.replicate count 0x30 := by
  induction count with
  | zero => simp
  | succ count inner =>
    have more : 0 < number * 10 ^ count := Nat.mul_pos positive (Nat.pow_pos (by decide))
    rw [pow_succ, ← mul_assoc, numeral_mul_ten more, inner, List.append_assoc,
      List.replicate_succ']

/-- A run of digits is what is left without the zeros at its end, and these zeros. -/
theorem append_trailing_zeros (digits : Text) :
    (digits.reverse.dropWhile (· == 0x30)).reverse
        ++ List.replicate
          (digits.reverse.length - (digits.reverse.dropWhile (· == 0x30)).length) 0x30
      = digits := by
  have parts := List.takeWhile_append_dropWhile (p := (· == 0x30)) (l := digits.reverse)
  have counted : digits.reverse.length - (digits.reverse.dropWhile (· == 0x30)).length
      = (digits.reverse.takeWhile (· == 0x30)).length := by
    have lengths := congrArg List.length parts
    rw [List.length_append] at lengths
    omega
  have zeros : digits.reverse.takeWhile (· == 0x30)
      = List.replicate (digits.reverse.takeWhile (· == 0x30)).length 0x30 := by
    rw [List.eq_replicate_iff]
    refine ⟨rfl, ?_⟩
    intro unit member
    exact eq_of_beq (List.all_eq_true.mp List.all_takeWhile unit member)
  have forward := congrArg List.reverse parts
  rw [List.reverse_append, List.reverse_reverse, zeros, List.reverse_replicate] at forward
  rw [counted]
  exact forward

/-! ## How many digits there are -/

theorem length_numeral
    {number : Nat}
    (positive : 0 < number) :
    (numeral number).length = digitCount number := by
  rw [numeral_of_pos positive, List.length_reverse, List.length_map, digitCount]

/-- A number has at most so many digits just if it is below that power of ten. -/
theorem digitCount_le_iff
    {number count : Nat} :
    digitCount number ≤ count ↔ number < 10 ^ count := by
  induction count generalizing number with
  | zero =>
    rw [digitCount, reversedDigits]
    split
    · simp_all
    · simp_all
  | succ count inner =>
    rw [digitCount, reversedDigits]
    split
    · simp_all
    · rw [List.length_cons, Nat.add_le_add_iff_right, ← digitCount, inner,
        Nat.div_lt_iff_lt_mul (by decide), pow_succ]

theorem lt_digitCount_iff
    {number count : Nat} :
    count < digitCount number ↔ 10 ^ count ≤ number := by
  rw [← Nat.not_le, digitCount_le_iff, Nat.not_lt]

theorem digitCount_pos
    {number : Nat}
    (positive : 0 < number) :
    0 < digitCount number :=
  lt_digitCount_iff.mpr positive

end InfixCalc.Text
