import InfixCalc.Proofs.Decimal.Modes
import Mathlib.Data.Int.Log

/-!
# Rounding rational numbers to significant digits

A number is measured in units of the last place that the precision keeps, and
the mode takes one of the two integers around it.  A computation may work with a
stand-in for a number: rounding does not tell them apart as long as no multiple
of a power of ten below the last place lies between the two.
-/

namespace InfixCalc

/-! ## Powers of ten -/

theorem ten_zpow_pos (place : ℤ) : (0 : ℚ) < 10 ^ place :=
  zpow_pos (by norm_num) place

/-- A power of ten is a multiple of every lower one. -/
theorem ten_zpow_eq_multiple
    {lower higher : ℤ}
    (order : lower ≤ higher) :
    (10 : ℚ) ^ higher = ((10 ^ (higher - lower).toNat : ℤ) : ℚ) * 10 ^ lower := by
  push_cast
  rw [← zpow_natCast, Int.toNat_of_nonneg (by omega), ← zpow_add₀ (by norm_num)]
  congr 1
  ring

theorem le_log_iff
    {number : ℚ}
    (positive : 0 < number)
    {place : ℤ} :
    place ≤ Int.log 10 number ↔ (10 : ℚ) ^ place ≤ number := by
  exact_mod_cast (Int.zpow_le_iff_le_log (R := ℚ) (b := 10) (by norm_num) positive).symm

/-- A positive number lies from the power of ten that its logarithm names up to the next one. -/
theorem log_eq_iff
    {number : ℚ}
    (positive : 0 < number)
    {place : ℤ} :
    Int.log 10 number = place ↔ (10 : ℚ) ^ place ≤ number ∧ number < 10 ^ (place + 1) := by
  rw [← not_le, ← le_log_iff positive, ← le_log_iff positive]
  omega

namespace SameGap

/-- Numbers in a gap below their first digit have their first digit in the same place. -/
theorem log_eq
    {place : ℤ}
    {first second : ℚ}
    (gap : SameGap (10 ^ place) first second)
    (fine : place ≤ Int.log 10 |first|) :
    Int.log 10 |first| = Int.log 10 |second| := by
  have nonzero : first ≠ 0 ∧ second ≠ 0 := by
    have sides := gap 0
    simp only [Int.cast_zero, zero_mul] at sides
    constructor
    · rintro rfl
      simp at sides
    · rintro rfl
      simp at sides
  rcases (log_eq_iff (abs_pos.mpr nonzero.1)).mp rfl with ⟨least, greatest⟩
  have apart := gap.abs
  generalize Int.log 10 |first| = leading at fine least greatest ⊢
  rw [eq_comm, log_eq_iff (abs_pos.mpr nonzero.2)]
  constructor
  · rw [ten_zpow_eq_multiple fine] at least ⊢
    exact (apart.le_iff _).mp least
  · rw [ten_zpow_eq_multiple (show place ≤ leading + 1 by omega), ← not_le] at greatest ⊢
    intro reached
    exact greatest ((apart.le_iff _).mpr reached)

end SameGap

/-! ## Significant digits -/

/-- The number can be written with so many significant digits. -/
def HasDigits
    (count : Nat)
    (number : ℚ) :
    Prop :=
  ∃ coefficient exponent : ℤ, |coefficient| < 10 ^ count ∧ number = coefficient * 10 ^ exponent

/-- A coefficient that has just got one digit too many ends in zeros. -/
theorem HasDigits.of_abs_le
    {count : Nat}
    (positive : 0 < count)
    {coefficient place : ℤ}
    (bounded : |coefficient| ≤ 10 ^ count) :
    HasDigits count (coefficient * 10 ^ place) := by
  have one : (1 : ℤ) < 10 ^ count := one_lt_pow₀ (by norm_num) (by omega)
  have carried : (10 : ℚ) ^ count * 10 ^ place = 10 ^ (count + place) := by
    rw [← zpow_natCast, ← zpow_add₀ (by norm_num)]
  rcases bounded.lt_or_eq with short | long
  · exact ⟨coefficient, place, short, rfl⟩
  · rcases (abs_eq (by positivity)).mp long with rfl | rfl
    · refine ⟨1, count + place, by simpa using one, ?_⟩
      push_cast
      rw [carried, one_mul]
    · refine ⟨-1, count + place, by simpa using one, ?_⟩
      push_cast
      rw [neg_mul, carried, neg_mul, one_mul]

namespace Context

/-- The place of the last digit of a number that the precision keeps. -/
def lastPlace
    (context : Context)
    (number : ℚ) :
    ℤ :=
  Int.log 10 |number| - context.precision + 1

/-- The number rounded to as many significant digits as the precision says. -/
def nearest
    (context : Context)
    (number : ℚ) :
    ℚ :=
  context.mode.toInteger (number / 10 ^ context.lastPlace number) * 10 ^ context.lastPlace number

variable (context : Context)

@[simp]
theorem nearest_zero : context.nearest 0 = 0 := by
  simp [nearest]

/-- What has no digits behind the last place is left as it is. -/
theorem nearest_of_multiple
    {coefficient place : ℤ}
    (kept : context.lastPlace (coefficient * 10 ^ place) ≤ place) :
    context.nearest (coefficient * 10 ^ place) = coefficient * 10 ^ place := by
  rw [nearest]
  generalize context.lastPlace (coefficient * 10 ^ place) = last at kept ⊢
  have nonzero := (ten_zpow_pos last).ne'
  rw [ten_zpow_eq_multiple kept, ← mul_assoc, ← Int.cast_mul, mul_div_cancel_right₀ _ nonzero,
    RoundingMode.toInteger_intCast]

/-- Rounding does not tell numbers apart whose gap ends before the last place. -/
theorem nearest_eq_of_sameGap
    {first second : ℚ}
    {place : ℤ}
    (gap : SameGap (10 ^ place) first second)
    (fine : place < context.lastPlace first) :
    context.nearest first = context.nearest second := by
  have precise := context.precision_pos
  have samePlace : context.lastPlace first = context.lastPlace second := by
    unfold lastPlace at fine ⊢
    rw [gap.log_eq (by omega)]
  rw [nearest, nearest, ← samePlace]
  generalize context.lastPlace first = last at fine ⊢
  congr 2
  apply SameGap.toInteger_eq
  apply SameGap.div (ten_zpow_pos last)
  -- Half a unit of the last place is a multiple of the finer unit, so that ties are seen alike.
  have coarse := gap.coarser (5 * 10 ^ (last - 1 - place).toNat)
  have half : (1 : ℚ) / 2 * 10 ^ last
      = ((5 * 10 ^ (last - 1 - place).toNat : ℤ) : ℚ) * 10 ^ place := by
    have below := ten_zpow_eq_multiple (show place ≤ last - 1 by omega)
    have split : (10 : ℚ) ^ last = 10 * 10 ^ (last - 1) := by
      rw [← zpow_one_add₀ (by norm_num)]
      congr 1
      ring
    rw [split, below]
    push_cast
    ring
  rwa [half]

/-- A rounded number has no more digits than the precision says. -/
theorem hasDigits_nearest (number : ℚ) :
    HasDigits context.precision (context.nearest number) := by
  by_cases zero : number = 0
  · refine ⟨0, 0, by positivity, ?_⟩
    rw [zero]
    simp
  · have magnitude : |number / 10 ^ context.lastPlace number|
        ≤ ((10 ^ context.precision : ℤ) : ℚ) := by
      have positive := ten_zpow_pos (context.lastPlace number)
      rcases (log_eq_iff (abs_pos.mpr zero)).mp rfl with ⟨_, greatest⟩
      rw [abs_div, abs_of_pos positive, div_le_iff₀ positive]
      apply greatest.le.trans
      push_cast
      rw [← zpow_natCast, ← zpow_add₀ (by norm_num)]
      apply le_of_eq
      congr 1
      unfold lastPlace
      ring
    have bounded := context.mode.abs_toInteger_le magnitude
    rw [nearest]
    exact .of_abs_le context.precision_pos bounded

/-- A number that has no more digits than the precision says is left as it is. -/
theorem nearest_of_hasDigits
    {number : ℚ}
    (short : HasDigits context.precision number) :
    context.nearest number = number := by
  rcases short with ⟨coefficient, exponent, bounded, rfl⟩
  rcases eq_or_ne coefficient 0 with rfl | nonzero
  · simp
  · apply context.nearest_of_multiple
    have power := ten_zpow_pos exponent
    have magnitude : (0 : ℚ) < |(coefficient : ℚ) * 10 ^ exponent| :=
      abs_pos.mpr (mul_ne_zero (by exact_mod_cast nonzero) power.ne')
    have below : |(coefficient : ℚ) * 10 ^ exponent| < 10 ^ (context.precision + exponent) := by
      have small : |(coefficient : ℚ)| < 10 ^ context.precision := by
        exact_mod_cast bounded
      rw [abs_mul, abs_of_pos power, zpow_add₀ (by norm_num), zpow_natCast]
      exact mul_lt_mul_of_pos_right small power
    have first : Int.log 10 |(coefficient : ℚ) * 10 ^ exponent| < context.precision + exponent := by
      rw [← not_le, le_log_iff magnitude, not_le]
      exact below
    unfold lastPlace
    omega

end Context

end InfixCalc
