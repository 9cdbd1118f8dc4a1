import InfixCalc.Operator
import InfixCalc.Proofs.Decimal.Quotient
import InfixCalc.Proofs.Decimal.Sum

/-!
# Arithmetic is correctly rounded

Each operator on finite decimals comes to the exact result on rational numbers,
rounded once, and to a finite decimal again.  Only a division by zero is left
out.
-/

namespace InfixCalc

namespace Decimal

theorem signed_bne_mul
    (leftNegative rightNegative : Bool)
    (left right : Nat) :
    signed (leftNegative != rightNegative) (left * right)
      = signed leftNegative left * signed rightNegative right := by
  cases leftNegative <;> cases rightNegative <;> simp [signed]

theorem toRat_mul
    (context : Context)
    {left right : Decimal}
    (leftFinite : left.isFinite)
    (rightFinite : right.isFinite) :
    (mul context left right).toRat = context.nearest (left.toRat * right.toRat) := by
  rcases exists_finite leftFinite with ⟨leftNegative, leftCoefficient, leftExponent, rfl⟩
  rcases exists_finite rightFinite with ⟨rightNegative, rightCoefficient, rightExponent, rfl⟩
  rw [mul, toRat_round]
  congr 1
  simp only [toRat, signed_bne_mul]
  rw [zpow_add₀ (by norm_num)]
  push_cast
  ring

theorem signed_bne_div
    (leftNegative rightNegative : Bool) :
    (signed (leftNegative != rightNegative) 1 : ℚ)
      = signed leftNegative 1 / signed rightNegative 1 := by
  cases leftNegative <;> cases rightNegative <;> simp [signed]

theorem toRat_div
    (context : Context)
    {left right : Decimal}
    (leftFinite : left.isFinite)
    (rightFinite : right.isFinite)
    (defined : right.isZero = false) :
    (div context left right).toRat = context.nearest (left.toRat / right.toRat) := by
  rcases exists_finite leftFinite with ⟨leftNegative, dividend, leftExponent, rfl⟩
  rcases exists_finite rightFinite with ⟨rightNegative, divisor, rightExponent, rfl⟩
  have positive : 0 < divisor := by
    apply Nat.pos_of_ne_zero
    rintro rfl
    cases defined
  rw [div]
  simp only [positive.ne', if_false]
  rw [toRat_round, nearest_quotient context _ _ positive]
  congr 1
  rw [toRat_eq_signed, toRat_eq_signed rightNegative, zpow_sub₀ (by norm_num), signed_bne_div]
  field_simp

theorem isFinite_round
    (context : Context)
    (value : Decimal) :
    (round context value).isFinite = value.isFinite := by
  cases value <;> rfl

theorem isFinite_exactSum
    (zeroSign leftNegative : Bool)
    (leftCoefficient : Nat)
    (leftExponent : ℤ)
    (rightNegative : Bool)
    (rightCoefficient : Nat)
    (rightExponent : ℤ) :
    (exactSum zeroSign leftNegative leftCoefficient leftExponent
        rightNegative rightCoefficient rightExponent).isFinite := by
  unfold exactSum
  dsimp only
  split <;> rfl

theorem isFinite_quotient
    (precision : Nat)
    (negative : Bool)
    (dividend divisor : Nat)
    (exponent : ℤ) :
    (quotient precision negative dividend divisor exponent).isFinite := by
  unfold quotient
  dsimp only
  split <;> rfl

theorem isFinite_add
    (context : Context)
    {left right : Decimal}
    (leftFinite : left.isFinite)
    (rightFinite : right.isFinite) :
    (add context left right).isFinite := by
  rcases exists_finite leftFinite with ⟨leftNegative, leftCoefficient, leftExponent, rfl⟩
  rcases exists_finite rightFinite with ⟨rightNegative, rightCoefficient, rightExponent, rfl⟩
  rw [add]
  split_ifs
  · rfl
  · rfl
  · rfl
  · rfl
  · rw [isFinite_round]
    exact isFinite_exactSum ..

end Decimal

namespace Operator

/-- What an operator does to rational numbers. -/
def exact : Operator → ℚ → ℚ → ℚ
  | add => fun left right => left + right
  | sub => fun left right => left - right
  | mul => fun left right => left * right
  | div => fun left right => left / right

/-- Every operator comes to the exact result, rounded, unless it divides by zero. -/
theorem toRat_apply
    (context : Context)
    (symbol : Operator)
    {left right : Decimal}
    (leftFinite : left.isFinite)
    (rightFinite : right.isFinite)
    (defined : ¬ (symbol = div ∧ right.isZero)) :
    (symbol.apply context left right).toRat
      = context.nearest (symbol.exact left.toRat right.toRat) := by
  cases symbol with
  | add => exact Decimal.toRat_add context leftFinite rightFinite
  | sub => exact Decimal.toRat_sub context leftFinite rightFinite
  | mul => exact Decimal.toRat_mul context leftFinite rightFinite
  | div =>
    apply Decimal.toRat_div context leftFinite rightFinite
    simpa using defined

/-- The result is finite as well. -/
theorem isFinite_apply
    (context : Context)
    (symbol : Operator)
    {left right : Decimal}
    (leftFinite : left.isFinite)
    (rightFinite : right.isFinite)
    (defined : ¬ (symbol = div ∧ right.isZero)) :
    (symbol.apply context left right).isFinite := by
  rcases Decimal.exists_finite leftFinite with ⟨leftNegative, leftCoefficient, leftExponent, rfl⟩
  rcases Decimal.exists_finite rightFinite with ⟨rightNegative, divisor, rightExponent, rfl⟩
  cases symbol with
  | add => exact Decimal.isFinite_add context leftFinite rightFinite
  | sub =>
    have negated : (Decimal.finite rightNegative divisor rightExponent).negate.isFinite := rfl
    exact Decimal.isFinite_add context leftFinite negated
  | mul => rfl
  | div =>
    have nonzero : divisor ≠ 0 := by
      rintro rfl
      exact defined ⟨rfl, rfl⟩
    simp only [apply, Decimal.div, nonzero, if_false]
    rw [Decimal.isFinite_round]
    exact Decimal.isFinite_quotient ..

end Operator

end InfixCalc
