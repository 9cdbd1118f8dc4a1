import InfixCalc.Proofs.Decimal.Rounding

/-!
# Sums are correctly rounded

A sum is put together at the lower one of two exponents.  Of two summands that
are far apart, the smaller one is replaced by a single digit below the horizon of
the larger one.  The digit shares a gap with what it replaces, and the gap ends
before the last place that the precision keeps.
-/

namespace InfixCalc.Decimal

/-! ## Exact sums -/

theorem toRat_finite_eq_multiple
    (negative : Bool)
    (coefficient : Nat)
    {exponent place : ℤ}
    (order : place ≤ exponent) :
    (finite negative coefficient exponent).toRat
      = (signed negative (alignedCoefficient coefficient exponent place) : ℚ) * 10 ^ place := by
  have aligned : signed negative (alignedCoefficient coefficient exponent place)
      = signed negative coefficient * 10 ^ (exponent - place).toNat := by
    cases negative <;> simp [signed, alignedCoefficient]
  rw [toRat, ten_zpow_eq_multiple order, aligned]
  push_cast
  ring

theorem signed_natAbs (total : ℤ) : signed (decide (total < 0)) total.natAbs = total := by
  unfold signed
  split
  · rename_i negative
    have := of_decide_eq_true negative
    omega
  · rename_i nonnegative
    have := of_decide_eq_false (Bool.eq_false_iff.mpr nonnegative)
    omega

theorem toRat_exactSum
    (zeroSign leftNegative : Bool)
    (leftCoefficient : Nat)
    (leftExponent : ℤ)
    (rightNegative : Bool)
    (rightCoefficient : Nat)
    (rightExponent : ℤ) :
    (exactSum zeroSign leftNegative leftCoefficient leftExponent
        rightNegative rightCoefficient rightExponent).toRat
      = (finite leftNegative leftCoefficient leftExponent).toRat
        + (finite rightNegative rightCoefficient rightExponent).toRat := by
  rw [toRat_finite_eq_multiple _ _ (min_le_left leftExponent rightExponent),
    toRat_finite_eq_multiple _ _ (min_le_right leftExponent rightExponent), ← add_mul,
    ← Int.cast_add]
  unfold exactSum
  dsimp only
  split
  · rename_i zero
    rw [zero, toRat_zero]
    simp
  · rw [toRat, signed_natAbs]

/-! ## Summands that are far apart -/

theorem horizon_le_exponent
    (precision coefficient : Nat)
    (exponent : ℤ) :
    horizon precision coefficient exponent ≤ exponent :=
  min_le_left _ _

theorem horizon_le_ceiling
    (precision coefficient : Nat)
    (exponent : ℤ) :
    horizon precision coefficient exponent ≤ ceiling coefficient exponent - precision - 2 :=
  min_le_right _ _

/-- A summand below the horizon shares a gap with what stands in for it. -/
theorem sameGap_below
    {place : ℤ}
    {coefficient : Nat}
    (positive : 0 < coefficient)
    (negative : Bool)
    {exponent : ℤ}
    (below : ceiling coefficient exponent ≤ place) :
    SameGap (10 ^ place) (finite negative coefficient exponent).toRat
      (finite negative 1 (place - 1)).toRat := by
  have unit := ten_zpow_pos place
  have power := ten_zpow_pos exponent
  have small : (coefficient : ℚ) * 10 ^ exponent < 10 ^ place := by
    rw [← abs_toRat negative]
    apply (abs_toRat_bounds positive negative exponent).2.trans_le
    exact zpow_le_zpow_right₀ (by norm_num) below
  rw [toRat_eq_signed, toRat_eq_signed]
  apply sameGap_signed
  apply SameGap.of_between unit 0
  · rw [Int.cast_zero, zero_mul]
    positivity
  · rwa [Int.cast_zero, zero_add, one_mul]
  · rw [Int.cast_zero, zero_mul]
    exact mul_pos (by norm_num) (ten_zpow_pos _)
  · rw [zpow_sub_one₀ (by norm_num), Int.cast_zero, Nat.cast_one]
    linarith

/-- A summand far below another one leaves the first digit of it nearly where it was. -/
theorem le_log_add
    {coefficient smallCoefficient : Nat}
    (positive : 0 < coefficient)
    (smallPositive : 0 < smallCoefficient)
    (negative smallNegative : Bool)
    {exponent smallExponent : ℤ}
    (far : ceiling smallCoefficient smallExponent ≤ ceiling coefficient exponent - 2) :
    ceiling coefficient exponent - 2
      ≤ Int.log 10 |(finite negative coefficient exponent).toRat
          + (finite smallNegative smallCoefficient smallExponent).toRat| := by
  have large := (abs_toRat_bounds positive negative exponent).1
  have small := (abs_toRat_bounds smallPositive smallNegative smallExponent).2
  generalize (finite negative coefficient exponent).toRat = first at large ⊢
  generalize (finite smallNegative smallCoefficient smallExponent).toRat = second at small ⊢
  have beneath : (10 : ℚ) ^ ceiling smallCoefficient smallExponent
      ≤ 10 ^ (ceiling coefficient exponent - 2) :=
    zpow_le_zpow_right₀ (by norm_num) far
  have tenfold : (10 : ℚ) ^ (ceiling coefficient exponent - 1)
      = 10 * 10 ^ (ceiling coefficient exponent - 2) := by
    rw [← zpow_one_add₀ (by norm_num)]
    congr 1
    ring
  have unit := ten_zpow_pos (ceiling coefficient exponent - 2)
  have triangle := abs_sub_abs_le_abs_sub first (-second)
  rw [abs_neg, sub_neg_eq_add] at triangle
  have least : (10 : ℚ) ^ (ceiling coefficient exponent - 2) ≤ |first + second| := by linarith
  exact (le_log_iff (unit.trans_le least)).mpr least

/-- Beside a larger summand, the stand-in leads to the same rounded sum. -/
theorem nearest_add_besideLarger
    (context : Context)
    {coefficient smallCoefficient : Nat}
    (positive : 0 < coefficient)
    (smallPositive : 0 < smallCoefficient)
    (negative smallNegative : Bool)
    (exponent smallExponent : ℤ) :
    let counted :=
      besideLarger (horizon context.precision coefficient exponent) smallCoefficient smallExponent
    context.nearest
        ((finite negative coefficient exponent).toRat
          + (finite smallNegative counted.1 counted.2).toRat)
      = context.nearest
        ((finite negative coefficient exponent).toRat
          + (finite smallNegative smallCoefficient smallExponent).toRat) := by
  intro counted
  have exponentBound := horizon_le_exponent context.precision coefficient exponent
  have ceilingBound := horizon_le_ceiling context.precision coefficient exponent
  simp only [counted, besideLarger]
  generalize horizon context.precision coefficient exponent = place at exponentBound ceilingBound ⊢
  split
  · rename_i below
    have gap : SameGap (10 ^ place)
        ((finite negative coefficient exponent).toRat
          + (finite smallNegative smallCoefficient smallExponent).toRat)
        ((finite negative coefficient exponent).toRat
          + (finite smallNegative 1 (place - 1)).toRat) := by
      rw [toRat_finite_eq_multiple negative coefficient exponentBound]
      exact (sameGap_below smallPositive smallNegative below).add_multiple _
    symm
    apply context.nearest_eq_of_sameGap gap
    have leading := le_log_add positive smallPositive negative smallNegative
      (show ceiling smallCoefficient smallExponent ≤ ceiling coefficient exponent - 2 by omega)
    unfold Context.lastPlace
    omega
  · rfl

/-- Of two summands only the smaller one can be replaced. -/
theorem besideLarger_of_larger
    {precision coefficient smallCoefficient : Nat}
    {exponent smallExponent : ℤ}
    (below : ceiling smallCoefficient smallExponent ≤ horizon precision coefficient exponent) :
    besideLarger (horizon precision smallCoefficient smallExponent) coefficient exponent
      = (coefficient, exponent) := by
  have far := horizon_le_ceiling precision coefficient exponent
  have near := horizon_le_ceiling precision smallCoefficient smallExponent
  exact if_neg (by omega)

/-- The rounded sum is the exact sum, rounded. -/
theorem toRat_add
    (context : Context)
    {left right : Decimal}
    (leftFinite : left.isFinite)
    (rightFinite : right.isFinite) :
    (add context left right).toRat = context.nearest (left.toRat + right.toRat) := by
  rcases exists_finite leftFinite with ⟨leftNegative, leftCoefficient, leftExponent, rfl⟩
  rcases exists_finite rightFinite with ⟨rightNegative, rightCoefficient, rightExponent, rfl⟩
  rcases Nat.eq_zero_or_pos leftCoefficient with rfl | leftPositive
  · rcases Nat.eq_zero_or_pos rightCoefficient with rfl | rightPositive
    · simp only [add, and_self, if_true]
      split <;> simp
    · simp only [add, rightPositive.ne', and_false, if_true, if_false]
      rw [toRat_round, toRat_finite_zero, zero_add]
  · rcases Nat.eq_zero_or_pos rightCoefficient with rfl | rightPositive
    · simp only [add, leftPositive.ne', false_and, if_true, if_false]
      rw [toRat_round, toRat_finite_zero, add_zero]
    · simp only [add, leftPositive.ne', rightPositive.ne', false_and, if_false]
      rw [toRat_round, toRat_exactSum]
      -- The one that is not below the horizon of the other is the larger one.
      by_cases below : ceiling leftCoefficient leftExponent
          ≤ horizon context.precision rightCoefficient rightExponent
      · rw [besideLarger_of_larger below, add_comm,
          nearest_add_besideLarger context rightPositive leftPositive, add_comm]
      · rw [besideLarger, if_neg below,
          nearest_add_besideLarger context leftPositive rightPositive]

theorem toRat_sub
    (context : Context)
    {left right : Decimal}
    (leftFinite : left.isFinite)
    (rightFinite : right.isFinite) :
    (sub context left right).toRat = context.nearest (left.toRat - right.toRat) := by
  have negated : right.negate.isFinite := by
    cases right <;> exact rightFinite
  rw [sub, toRat_add context leftFinite negated, toRat_negate, sub_eq_add_neg]

end InfixCalc.Decimal
