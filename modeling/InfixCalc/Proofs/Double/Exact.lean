import InfixCalc.Double.Basic
import Mathlib.Data.Nat.Log
import Mathlib.Data.Rat.Cast.Order
import Mathlib.Tactic.FieldSimp
import Mathlib.Tactic.Linarith
import Mathlib.Tactic.NormNum
import Mathlib.Tactic.Positivity

/-!
# Doubles as rational numbers

A finite double is a rational number.  The natural number that a double is found
to be is that number, and it is compared with natural numbers as that number is.
Below 2 ^ 53 the double nearest to a natural number is the number itself.
-/

namespace InfixCalc.Double

/-- The number that a double is, if it is finite. -/
def toRat? : Double → Option ℚ
  | finite negative significand exponent =>
    some ((if negative then -1 else 1) * significand * 2 ^ exponent)
  | infinite _ => none
  | nan => none

theorem denominator_pos (exponent : ℤ) : 0 < denominator exponent :=
  Nat.pow_pos (by decide)

/-- The ratio of the two natural numbers is the magnitude of the double. -/
theorem numerator_div_denominator
    (significand : Nat)
    (exponent : ℤ) :
    (numerator significand exponent : ℚ) / denominator exponent = significand * 2 ^ exponent := by
  simp only [numerator, denominator, Nat.pow_eq]
  rcases le_total 0 exponent with up | down
  · lift exponent to Nat using up
    simp
  · obtain ⟨places, rfl⟩ : ∃ places : Nat, exponent = -places := ⟨exponent.natAbs, by omega⟩
    simp [div_eq_mul_inv]

/-- The magnitude is a natural number if the one of the two numbers is so many times the other. -/
theorem magnitude_eq_iff
    {significand number : Nat}
    {exponent : ℤ} :
    (significand : ℚ) * 2 ^ exponent = number ↔
      numerator significand exponent = number * denominator exponent := by
  have positive : (denominator exponent : ℚ) ≠ 0 := by
    exact_mod_cast (denominator_pos exponent).ne'
  rw [← numerator_div_denominator, div_eq_iff positive]
  exact_mod_cast Iff.rfl

/-- A double is found to be a natural number if its value is that number. -/
theorem toNat?_eq_some_iff
    {value : Double}
    {number : Nat} :
    value.toNat? = some number ↔ value.toRat? = some (number : ℚ) := by
  rcases value with ⟨negative, significand, exponent⟩ | _ | _
  · rcases Nat.eq_zero_or_pos significand with rfl | positive
    · simp [toNat?, toRat?, eq_comm]
    · cases negative with
      | true =>
        have magnitude : (0 : ℚ) < significand * 2 ^ exponent :=
          mul_pos (by exact_mod_cast positive) (zpow_pos (by norm_num) exponent)
        have below : ¬ -((significand : ℚ) * 2 ^ exponent) = number := by
          have nonnegative : (0 : ℚ) ≤ number := Nat.cast_nonneg number
          linarith
        simp [toNat?, toRat?, positive.ne', below]
      | false =>
        have divisor := denominator_pos exponent
        simp only [toNat?, toRat?, positive.ne', if_false, Bool.false_eq_true, one_mul,
          Option.some.injEq, magnitude_eq_iff]
        constructor
        · intro found
          split at found
          · rename_i whole
            rw [← Option.some.inj found, Nat.div_mul_cancel (Nat.dvd_of_mod_eq_zero whole)]
          · cases found
        · intro equal
          rw [equal, Nat.mul_mod_left, if_pos rfl, Nat.mul_div_cancel _ divisor]
  · simp [toNat?, toRat?]
  · simp [toNat?, toRat?]

/-! ## Comparisons -/

/-- The magnitude is a ratio of natural numbers, the second of which is positive. -/
theorem toRat?_finite
    (negative : Bool)
    (significand : Nat)
    (exponent : ℤ) :
    (finite negative significand exponent).toRat?
      = some (if negative then -(numerator significand exponent / denominator exponent : ℚ)
          else numerator significand exponent / denominator exponent) := by
  rw [toRat?, mul_assoc, ← numerator_div_denominator]
  cases negative <;> simp

theorem numerator_eq_zero_iff
    {significand : Nat}
    {exponent : ℤ} :
    numerator significand exponent = 0 ↔ significand = 0 := by
  simp [numerator]

section

variable
    {value : Double}
    {number : ℚ}

/-- A double is less than a natural number if its value is. -/
theorem ltNat_iff
    (finite : value.toRat? = some number)
    {bound : Nat} :
    value.ltNat bound ↔ number < bound := by
  rcases value with ⟨negative, significand, exponent⟩ | _ | _
  · have divisor : (0 : ℚ) < denominator exponent := by exact_mod_cast denominator_pos exponent
    rw [toRat?_finite] at finite
    cases negative with
    | false =>
      cases finite
      simp only [ltNat, Bool.false_eq_true, if_false, decide_eq_true_eq]
      rw [div_lt_iff₀ divisor]
      exact_mod_cast Iff.rfl
    | true =>
      cases finite
      simp only [ltNat, if_true, decide_eq_true_eq]
      rcases Nat.eq_zero_or_pos significand with rfl | positive
      · simp [numerator]
      · have magnitude : (0 : ℚ) < numerator significand exponent / denominator exponent := by
          have above : 0 < numerator significand exponent :=
            Nat.pos_of_ne_zero (numerator_eq_zero_iff.not.mpr positive.ne')
          positivity
        have below : -(numerator significand exponent / denominator exponent : ℚ) < bound :=
          (neg_neg_of_pos magnitude).trans_le (Nat.cast_nonneg bound)
        exact iff_of_true (.inl positive.ne') below
  · cases finite
  · cases finite

/-- A natural number is less than a double if it is less than its value. -/
theorem gtNat_iff
    (finite : value.toRat? = some number)
    {bound : Nat} :
    value.gtNat bound ↔ bound < number := by
  rcases value with ⟨negative, significand, exponent⟩ | _ | _
  · have divisor : (0 : ℚ) < denominator exponent := by exact_mod_cast denominator_pos exponent
    rw [toRat?_finite] at finite
    cases negative with
    | false =>
      cases finite
      simp only [gtNat, Bool.false_eq_true, if_false, decide_eq_true_eq]
      rw [lt_div_iff₀ divisor]
      exact_mod_cast Iff.rfl
    | true =>
      cases finite
      have magnitude : (0 : ℚ) ≤ numerator significand exponent / denominator exponent := by
        positivity
      have below : -(numerator significand exponent / denominator exponent : ℚ) ≤ bound :=
        (neg_nonpos_of_nonneg magnitude).trans (Nat.cast_nonneg bound)
      simpa [gtNat] using below
  · cases finite
  · cases finite

/-- A double has no fraction if its value is an integer. -/
theorem isInteger_iff
    (finite : value.toRat? = some number) :
    value.isInteger ↔ ∃ whole : ℤ, number = whole := by
  rcases value with ⟨negative, significand, exponent⟩ | _ | _
  · have divisor : (denominator exponent : ℚ) ≠ 0 := by
      exact_mod_cast (denominator_pos exponent).ne'
    have divides : numerator significand exponent % denominator exponent = 0 ↔
        ∃ whole : ℤ, (numerator significand exponent / denominator exponent : ℚ) = whole := by
      rw [← Nat.dvd_iff_mod_eq_zero, ← Int.natCast_dvd_natCast]
      constructor
      · rintro ⟨whole, equal⟩
        refine ⟨whole, ?_⟩
        rw [div_eq_iff divisor, mul_comm]
        exact_mod_cast equal
      · rintro ⟨whole, equal⟩
        refine ⟨whole, ?_⟩
        rw [div_eq_iff divisor, mul_comm] at equal
        exact_mod_cast equal
    rw [toRat?_finite] at finite
    simp only [isInteger, beq_iff_eq, divides]
    cases negative with
    | false =>
      cases finite
      exact Iff.rfl
    | true =>
      cases finite
      constructor
      · rintro ⟨whole, equal⟩
        exact ⟨-whole, by simp [equal]⟩
      · rintro ⟨whole, equal⟩
        refine ⟨-whole, ?_⟩
        push_cast
        rw [← equal]
        simp
  · cases finite
  · cases finite

end

/-! ## Natural numbers -/

theorem ofRatio_ne_nan
    (negative : Bool)
    (top bottom : Nat) :
    ofRatio negative top bottom ≠ nan := by
  unfold ofRatio
  dsimp only
  split_ifs <;> nofun

theorem ofNat_ne_nan (number : Nat) : ofNat number ≠ nan :=
  ofRatio_ne_nan false number 1

theorem ofInt_ne_nan (number : ℤ) : ofInt number ≠ nan :=
  ofRatio_ne_nan _ number.natAbs 1

@[simp]
theorem ofInt_natCast (number : Nat) : ofInt number = ofNat number := by
  have notNegative : ¬ (number : ℤ) < 0 := Int.not_lt.mpr (Int.natCast_nonneg number)
  simp [ofInt, ofNat, notNegative]

/-- The sign of a ratio is taken over, and nothing else depends on it. -/
theorem ofRatio_eq_finite_iff
    {negative : Bool}
    {top bottom significand : Nat}
    {exponent : ℤ} :
    ofRatio negative top bottom = finite negative significand exponent ↔
      ofRatio false top bottom = finite false significand exponent := by
  unfold ofRatio
  dsimp only
  split_ifs <;> simp [zero]

theorem divideToEven_one (number : Nat) : divideToEven number 1 = number := by
  simp [divideToEven, Nat.mod_one]

/-- Below the bound of significands, no bit of a natural number is lost. -/
theorem ofNat_eq
    {number : Nat}
    (positive : 0 < number)
    (small : number < significandBound) :
    ofNat number
      = finite false (number * 2 ^ (52 - number.log2)) ((number.log2 : ℤ) - 52) := by
  have bits : number.log2 < 53 := (Nat.log2_lt positive.ne').mpr small
  have least := Nat.log2_self_le positive.ne'
  have greatest : number < 2 ^ (number.log2 + 1) := Nat.lt_log2_self
  have tooLong : ¬ number * 2 ^ (53 - number.log2) < significandBound := by
    rw [Nat.not_lt]
    calc
      significandBound
        = 2 ^ number.log2 * 2 ^ (53 - number.log2) := by
          rw [← pow_add, Nat.add_sub_cancel' bits.le]
          rfl
      _ ≤ number * 2 ^ (53 - number.log2) := Nat.mul_le_mul_right _ least
  have fits : number * 2 ^ (52 - number.log2) < significandBound := by
    calc
      number * 2 ^ (52 - number.log2)
        < 2 ^ (number.log2 + 1) * 2 ^ (52 - number.log2) :=
          Nat.mul_lt_mul_of_pos_right greatest (Nat.pow_pos (by decide))
      _ = significandBound := by
          rw [← pow_add, show number.log2 + 1 + (52 - number.log2) = 53 by omega]
          rfl
  have exponent : max leastExponent ((number.log2 : ℤ) - (Nat.log2 1 : ℕ) - 53)
      = number.log2 - 53 := by
    rw [show Nat.log2 1 = 0 from rfl, leastExponent]
    omega
  have up : (-((number.log2 : ℤ) - 53)).toNat = 53 - number.log2 := by omega
  have down : ((number.log2 : ℤ) - 53).toNat = 0 := by omega
  have nextUp : (-((number.log2 : ℤ) - 53 + 1)).toNat = 52 - number.log2 := by omega
  have nextDown : ((number.log2 : ℤ) - 53 + 1).toNat = 0 := by omega
  rw [ofNat, ofRatio, if_neg positive.ne']
  simp only [exponent, up, down, nextUp, nextDown, Nat.pow_eq, pow_zero, mul_one, divideToEven_one,
    if_neg tooLong, if_neg fits.ne]
  rw [if_neg]
  · congr 1
    omega
  · rw [greatestExponent]
    omega

/-- From the bound of significands on, the nearest double has a positive exponent. -/
theorem exponent_pos_of_large
    {number significand : Nat}
    {exponent : ℤ}
    (large : significandBound ≤ number)
    (equal : ofNat number = finite false significand exponent) :
    0 < exponent := by
  have positive : number ≠ 0 := by
    rintro rfl
    exact absurd large (by decide)
  have bits : 53 ≤ number.log2 := (Nat.le_log2 positive).mpr large
  have least := Nat.log2_self_le positive
  have quotient : significandBound ≤ number / 2 ^ (number.log2 - 53) := by
    rw [Nat.le_div_iff_mul_le (Nat.pow_pos (by decide))]
    calc
      significandBound * 2 ^ (number.log2 - 53)
        = 2 ^ 53 * 2 ^ (number.log2 - 53) := rfl
      _ = 2 ^ number.log2 := by rw [← pow_add, Nat.add_sub_cancel' bits]
      _ ≤ number := least
  have tooLong : ¬ divideToEven number (2 ^ (number.log2 - 53)) < significandBound := by
    rw [Nat.not_lt, divideToEven]
    split
    · exact quotient.trans (Nat.le_succ _)
    · exact quotient
  have start : max leastExponent ((number.log2 : ℤ) - (Nat.log2 1 : ℕ) - 53)
      = number.log2 - 53 := by
    rw [show Nat.log2 1 = 0 from rfl, leastExponent]
    omega
  have up : (-((number.log2 : ℤ) - 53)).toNat = 0 := by omega
  have down : ((number.log2 : ℤ) - 53).toNat = number.log2 - 53 := by omega
  rw [ofNat, ofRatio, if_neg positive] at equal
  simp only [start, up, down, Nat.pow_eq, pow_zero, mul_one, one_mul, if_neg tooLong] at equal
  split_ifs at equal
  · cases equal
    omega
  · cases equal
    omega

theorem toRat?_ofNat
    {number : Nat}
    (small : number < significandBound) :
    (ofNat number).toRat? = some (number : ℚ) := by
  rcases Nat.eq_zero_or_pos number with rfl | positive
  · simp [ofNat, ofRatio, zero, toRat?]
  · have bits : number.log2 < 53 := (Nat.log2_lt positive.ne').mpr small
    have places : (number.log2 : ℤ) - 52 = -((52 - number.log2 : Nat) : ℤ) := by omega
    have nonzero : (2 : ℚ) ^ (52 - number.log2) ≠ 0 := by positivity
    rw [ofNat_eq positive small, toRat?, places, zpow_neg, zpow_natCast]
    push_cast
    rw [one_mul, mul_inv_cancel_right₀ nonzero]

theorem toNat?_ofNat
    {number : Nat}
    (small : number < significandBound) :
    (ofNat number).toNat? = some number :=
  toNat?_eq_some_iff.mpr (toRat?_ofNat small)

theorem isInteger_ofNat
    {number : Nat}
    (small : number < significandBound) :
    (ofNat number).isInteger :=
  (isInteger_iff (toRat?_ofNat small)).mpr ⟨number, rfl⟩

theorem ltNat_ofNat
    {number : Nat}
    (small : number < significandBound)
    (bound : Nat) :
    (ofNat number).ltNat bound = decide (number < bound) := by
  rw [Bool.eq_iff_iff, ltNat_iff (toRat?_ofNat small), decide_eq_true_iff]
  exact Nat.cast_lt

end InfixCalc.Double
