import InfixCalc.Proofs.Decimal.Rounding
import Mathlib.Data.Nat.Cast.Field
import Mathlib.Data.Nat.Factorization.Basic

/-!
# Quotients are correctly rounded

A quotient that terminates does so within as many places as its divisor has
bits.  Any other one is cut off behind the precision and marked with a digit that
keeps it away from the multiples on either side, so that it shares a gap with
the exact quotient.
-/

namespace InfixCalc.Decimal

theorem factorization_le_log2
    {number : Nat}
    (positive : 0 < number)
    (prime : Nat) :
    number.factorization prime ≤ number.log2 := by
  by_cases isPrime : prime.Prime
  · rw [Nat.le_log2 positive.ne']
    calc
      2 ^ number.factorization prime
        ≤ prime ^ number.factorization prime := Nat.pow_le_pow_left isPrime.two_le _
      _ ≤ number := Nat.ordProj_le prime positive.ne'
  · rw [Nat.factorization_eq_zero_of_not_prime number isPrime]
    exact Nat.zero_le _

/-- A quotient that terminates does so within as many places as the divisor has bits. -/
theorem dvd_mul_pow_log2
    {dividend divisor base places : Nat}
    (positive : 0 < divisor)
    (basePositive : 0 < base)
    (divides : divisor ∣ dividend * base ^ places) :
    divisor ∣ dividend * base ^ divisor.log2 := by
  rcases Nat.eq_zero_or_pos dividend with rfl | dividendPositive
  · simp
  · rw [← Nat.factorization_le_iff_dvd (by positivity) (by positivity)] at divides ⊢
    intro prime
    have enough := divides prime
    rw [Nat.factorization_mul (by positivity) (by positivity), Nat.factorization_pow] at enough ⊢
    simp only [Finsupp.add_apply, Finsupp.smul_apply, smul_eq_mul] at enough ⊢
    have bits := factorization_le_log2 positive prime
    rcases Nat.eq_zero_or_pos (base.factorization prime) with none | some
    · rw [none, mul_zero] at enough ⊢
      exact enough
    · have repeated := Nat.le_mul_of_pos_right divisor.log2 some
      omega

/-- The digits that are kept of a quotient without end are two more than the precision. -/
theorem pow_le_quotient
    (precision : Nat)
    {dividend divisor : Nat}
    (dividendPositive : 0 < dividend)
    (positive : 0 < divisor) :
    10 ^ (precision + 1)
      ≤ dividend * 10 ^ (precision + 2 + Text.digitCount divisor - Text.digitCount dividend)
          / divisor := by
  have least := Text.pow_digitCount_le dividendPositive
  have greatest := Text.lt_pow_digitCount divisor
  rw [Nat.le_div_iff_mul_le positive]
  generalize Text.digitCount dividend = dividendCount at least ⊢
  generalize Text.digitCount divisor = divisorCount at greatest ⊢
  apply Nat.le_of_mul_le_mul_left (c := 10)
  · calc
      10 * (10 ^ (precision + 1) * divisor)
        ≤ 10 * (10 ^ (precision + 1) * 10 ^ divisorCount) := by gcongr
      _ = 10 ^ (precision + 2 + divisorCount) := by ring
      _ ≤ 10 ^ (dividendCount + (precision + 2 + divisorCount - dividendCount)) :=
        Nat.pow_le_pow_right (by norm_num) (by omega)
      _ = 10 ^ dividendCount * 10 ^ (precision + 2 + divisorCount - dividendCount) := by
        rw [pow_add]
      _ ≤ 10 * dividend * 10 ^ (precision + 2 + divisorCount - dividendCount) := by gcongr
      _ = 10 * (dividend * 10 ^ (precision + 2 + divisorCount - dividendCount)) := by ring
  · norm_num

/-- Places that are added to the dividend are taken back from the exponent. -/
theorem quotient_shift
    (dividend divisor places : Nat)
    (exponent : ℤ) :
    ((dividend * 10 ^ places : Nat) : ℚ) / divisor * 10 ^ (exponent - places)
      = dividend / divisor * 10 ^ exponent := by
  rw [zpow_sub₀ (by norm_num), zpow_natCast]
  push_cast
  field_simp

/-- A quotient that is cut off and marked shares a gap with the exact one, unless it is exact. -/
theorem sameGap_marked
    {dividend divisor scale : Nat}
    (positive : 0 < divisor)
    (endless : ¬ divisor ∣ dividend * 10 ^ scale)
    (exponent : ℤ) :
    SameGap (10 ^ (exponent - scale)) (dividend / divisor * 10 ^ exponent)
      ((dividend * 10 ^ scale / divisor * 10 + 1 : Nat) * 10 ^ (exponent - scale - 1)) := by
  have unit := ten_zpow_pos (exponent - scale)
  have remainder : 0 < dividend * 10 ^ scale % divisor :=
    Nat.pos_of_ne_zero fun zero => endless (Nat.dvd_of_mod_eq_zero zero)
  have proper := Nat.mod_lt (dividend * 10 ^ scale) positive
  have whole := Nat.div_add_mod (dividend * 10 ^ scale) divisor
  have divisorPositive : (0 : ℚ) < divisor := by exact_mod_cast positive
  rw [← quotient_shift dividend divisor scale exponent]
  generalize dividend * 10 ^ scale = shifted at remainder proper whole ⊢
  generalize shifted / divisor = kept at whole ⊢
  have below : (kept : ℚ) < shifted / divisor := by
    rw [lt_div_iff₀ divisorPositive, mul_comm]
    exact_mod_cast (show divisor * kept < shifted by omega)
  have above : (shifted : ℚ) / divisor < kept + 1 := by
    rw [div_lt_iff₀ divisorPositive, mul_comm]
    exact_mod_cast (show shifted < divisor * (kept + 1) by rw [mul_add]; omega)
  apply SameGap.of_between unit kept
  · push_cast
    gcongr
  · push_cast
    gcongr
  · rw [zpow_sub_one₀ (by norm_num)]
    push_cast
    nlinarith
  · rw [zpow_sub_one₀ (by norm_num)]
    push_cast
    nlinarith

/-- The quotient that is rounded, and the exact one, come to the same. -/
theorem nearest_quotient
    (context : Context)
    (negative : Bool)
    (dividend : Nat)
    {divisor : Nat}
    (positive : 0 < divisor)
    (exponent : ℤ) :
    context.nearest (quotient context.precision negative dividend divisor exponent).toRat
      = context.nearest (signed negative 1 * (dividend / divisor * 10 ^ exponent)) := by
  rw [quotient]
  simp only [Nat.pow_eq]
  split
  · rename_i terminates
    have divides := Nat.dvd_of_mod_eq_zero terminates
    have nonzero : (divisor : ℚ) ≠ 0 := by positivity
    rw [toRat_eq_signed, Nat.cast_div divides nonzero, quotient_shift]
  · rename_i endless
    have dividendPositive : 0 < dividend := by
      rcases Nat.eq_zero_or_pos dividend with rfl | some
      · simp at endless
      · exact some
    have kept := pow_le_quotient context.precision dividendPositive positive
    generalize context.precision + 2 + Text.digitCount divisor - Text.digitCount dividend
      = scale at kept ⊢
    -- More places than the divisor has bits do not make a quotient terminate.
    have never : ¬ divisor ∣ dividend * 10 ^ scale := by
      intro divides
      exact endless (Nat.mod_eq_zero_of_dvd (dvd_mul_pow_log2 positive (by norm_num) divides))
    have gap := sameGap_signed (sameGap_marked positive never exponent) negative
    have least : (10 : ℚ) ^ (exponent - scale + context.precision + 1)
        ≤ dividend / divisor * 10 ^ exponent := by
      have unit := ten_zpow_pos (exponent - scale)
      have digits : (10 : ℚ) ^ (context.precision + 1)
          ≤ (dividend * 10 ^ scale : Nat) / divisor := by
        rw [Nat.le_div_iff_mul_le positive] at kept
        rw [le_div_iff₀ (by positivity)]
        exact_mod_cast kept
      rw [← quotient_shift dividend divisor scale, add_assoc, zpow_add₀ (by norm_num), mul_comm]
      gcongr
      exact_mod_cast digits
    have leading := (le_log_iff ((ten_zpow_pos _).trans_le least)).mpr least
    rw [toRat_eq_signed]
    symm
    apply context.nearest_eq_of_sameGap gap
    have positiveQuotient := (ten_zpow_pos _).trans_le least
    rw [Context.lastPlace, abs_signed_mul, abs_of_pos positiveQuotient]
    omega

end InfixCalc.Decimal
