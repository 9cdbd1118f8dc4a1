import InfixCalc.Decimal.Arithmetic
import InfixCalc.Proofs.Decimal.Nearest

/-!
# Decimals as rational numbers

A finite decimal stands for a rational number, and rounding a decimal digit by
digit is rounding the number.  The remainder that is dropped, as a fraction of
the unit it is a remainder of, decides between the two integers around the kept
digits; negative decimals are rounded in the mirrored mode.
-/

namespace InfixCalc

/-! ## Digits -/

namespace Text

@[simp]
theorem digitCount_zero : digitCount 0 = 0 := by
  rw [digitCount, reversedDigits]
  rfl

theorem digitCount_of_pos
    {number : Nat}
    (positive : 0 < number) :
    digitCount number = digitCount (number / 10) + 1 := by
  rw [digitCount, reversedDigits, if_neg (by omega)]
  rfl

theorem lt_pow_digitCount (number : Nat) : number < 10 ^ digitCount number := by
  induction number using Nat.strongRecOn with
  | ind number inner =>
    rcases Nat.eq_zero_or_pos number with rfl | positive
    · simp
    · have shorter := inner (number / 10) (by omega)
      rw [digitCount_of_pos positive, pow_succ]
      omega

theorem pow_digitCount_le
    {number : Nat}
    (positive : 0 < number) :
    10 ^ digitCount number ≤ 10 * number := by
  induction number using Nat.strongRecOn with
  | ind number inner =>
    rw [digitCount_of_pos positive, pow_succ]
    rcases Nat.eq_zero_or_pos (number / 10) with zero | more
    · rw [zero, digitCount_zero]
      omega
    · have shorter := inner (number / 10) (by omega) more
      omega

end Text

/-! ## Values -/

namespace Decimal

/-- The number that a decimal stands for; zero for those that stand for none. -/
def toRat : Decimal → ℚ
  | finite negative coefficient exponent => signed negative coefficient * 10 ^ exponent
  | infinite _ => 0
  | nan => 0

theorem signed_false (magnitude : Nat) : signed false magnitude = magnitude := rfl

theorem signed_true (magnitude : Nat) : signed true magnitude = -magnitude := rfl

theorem signed_eq_mul
    (negative : Bool)
    (magnitude : Nat) :
    signed negative magnitude = signed negative 1 * magnitude := by
  cases negative <;> simp [signed]

theorem abs_signed
    (negative : Bool)
    (magnitude : Nat) :
    |signed negative magnitude| = magnitude := by
  cases negative with
  | false => exact Nat.abs_cast magnitude
  | true => rw [signed_true, abs_neg, Nat.abs_cast]

theorem exists_finite
    {value : Decimal}
    (isFinite : value.isFinite) :
    ∃ negative coefficient exponent, value = finite negative coefficient exponent := by
  cases value with
  | finite negative coefficient exponent => exact ⟨negative, coefficient, exponent, rfl⟩
  | infinite _ => cases isFinite
  | nan => cases isFinite

theorem toRat_negate
    (value : Decimal) :
    value.negate.toRat = -value.toRat := by
  rcases value with ⟨_ | _, coefficient, exponent⟩ | _ | _
  · simp [negate, toRat, signed]
  · simp [negate, toRat, signed]
  · simp [negate, toRat]
  · simp [negate, toRat]

@[simp]
theorem toRat_finite_zero
    (negative : Bool)
    (exponent : ℤ) :
    (finite negative 0 exponent).toRat = 0 := by
  cases negative <;> simp [toRat, signed]

@[simp]
theorem toRat_zero (negative : Bool) : (zero negative).toRat = 0 :=
  toRat_finite_zero negative 0

theorem toRat_eq_signed
    (negative : Bool)
    (coefficient : Nat)
    (exponent : ℤ) :
    (finite negative coefficient exponent).toRat
      = signed negative 1 * (coefficient * 10 ^ exponent) := by
  rw [toRat, signed_eq_mul]
  push_cast
  ring

theorem abs_signed_mul
    (negative : Bool)
    (number : ℚ) :
    |(signed negative 1 : ℚ) * number| = |number| := by
  cases negative <;> simp [signed]

theorem sameGap_signed
    {unit first second : ℚ}
    (gap : SameGap unit first second)
    (negative : Bool) :
    SameGap unit (signed negative 1 * first) (signed negative 1 * second) := by
  cases negative with
  | false => simpa [signed] using gap
  | true => simpa [signed] using gap.neg

/-- A finite decimal stands for zero if it is one of the zeros. -/
theorem toRat_eq_zero_iff
    {value : Decimal}
    (isFinite : value.isFinite) :
    value.toRat = 0 ↔ value.isZero := by
  rcases exists_finite isFinite with ⟨negative, coefficient, exponent, rfl⟩
  have nonzero := (ten_zpow_pos exponent).ne'
  cases negative <;> simp [toRat, signed, isZero, nonzero]

theorem abs_toRat
    (negative : Bool)
    (coefficient : Nat)
    (exponent : ℤ) :
    |(finite negative coefficient exponent).toRat| = coefficient * 10 ^ exponent := by
  rw [toRat, abs_mul, abs_of_pos (ten_zpow_pos exponent), ← Int.cast_abs, abs_signed,
    Int.cast_natCast]

/-- A decimal lies below its ceiling, but not below the power of ten beneath. -/
theorem abs_toRat_bounds
    {coefficient : Nat}
    (positive : 0 < coefficient)
    (negative : Bool)
    (exponent : ℤ) :
    10 ^ (ceiling coefficient exponent - 1) ≤ |(finite negative coefficient exponent).toRat| ∧
      |(finite negative coefficient exponent).toRat| < 10 ^ ceiling coefficient exponent := by
  have power := ten_zpow_pos exponent
  have least : (10 : ℚ) ^ Text.digitCount coefficient ≤ 10 * coefficient := by
    exact_mod_cast Text.pow_digitCount_le positive
  have greatest : (coefficient : ℚ) < 10 ^ Text.digitCount coefficient := by
    exact_mod_cast Text.lt_pow_digitCount coefficient
  rw [abs_toRat, ceiling, zpow_sub_one₀ (by norm_num), zpow_add₀ (by norm_num), zpow_natCast]
  constructor
  · rw [← div_eq_mul_inv, div_le_iff₀ (by norm_num)]
    nlinarith
  · nlinarith

theorem log_toRat
    {coefficient : Nat}
    (positive : 0 < coefficient)
    (negative : Bool)
    (exponent : ℤ) :
    Int.log 10 |(finite negative coefficient exponent).toRat|
      = ceiling coefficient exponent - 1 := by
  have bounds := abs_toRat_bounds positive negative exponent
  rw [log_eq_iff ((ten_zpow_pos _).trans_le bounds.1), sub_add_cancel]
  exact bounds

end Decimal

/-! ## Dropped digits -/

/-- What the comparison with half a unit says of the dropped part of a unit. -/
def Dropped.Describes
    (dropped : Dropped)
    (part : ℚ) :
    Prop :=
  match dropped with
  | nothing => part = 0
  | belowHalf => 0 < part ∧ part < 1 / 2
  | half => part = 1 / 2
  | aboveHalf => 1 / 2 < part ∧ part < 1

theorem Dropped.describes_ofRemainder
    {remainder unit : Nat}
    (proper : remainder < unit) :
    (ofRemainder remainder unit).Describes (remainder / unit) := by
  have positive : (0 : ℚ) < unit := by
    exact_mod_cast Nat.zero_lt_of_lt proper
  have bounded : (remainder : ℚ) < unit := by
    exact_mod_cast proper
  unfold ofRemainder
  split
  · rename_i zero
    simp [Describes, zero]
  · rename_i nonzero
    have some : (0 : ℚ) < remainder := by
      exact_mod_cast Nat.pos_of_ne_zero nonzero
    split
    · rename_i small
      have less : (2 : ℚ) * remainder < unit := by
        exact_mod_cast small
      refine ⟨by positivity, ?_⟩
      rw [div_lt_iff₀ positive]
      linarith
    · split
      · rename_i middle
        have equal : (2 : ℚ) * remainder = unit := by
          exact_mod_cast middle
        show (remainder : ℚ) / unit = 1 / 2
        rw [div_eq_iff positive.ne']
        linarith
      · rename_i notSmall notMiddle
        have more : (unit : ℚ) < 2 * remainder := by
          exact_mod_cast (show unit < 2 * remainder by omega)
        constructor
        · rw [lt_div_iff₀ positive]
          linarith
        · rw [div_lt_one positive]
          exact bounded

namespace RoundingMode

section

variable
    (kept : Nat)
    {part : ℚ}

theorem floor_add_part
    (least : 0 ≤ part)
    (greatest : part < 1) :
    ⌊(kept : ℚ) + part⌋ = kept := by
  rw [Int.floor_eq_iff]
  push_cast
  constructor <;> linarith

theorem ceil_add_part
    (least : 0 < part)
    (greatest : part ≤ 1) :
    ⌈(kept : ℚ) + part⌉ = kept + 1 := by
  rw [Int.ceil_eq_iff]
  push_cast
  constructor <;> linarith

theorem floor_add_half_of_lt
    (least : 0 ≤ part)
    (less : part < 1 / 2) :
    ⌊(kept : ℚ) + part + 1 / 2⌋ = kept := by
  rw [add_assoc]
  exact floor_add_part kept (by linarith) (by linarith)

theorem floor_add_half_of_le
    (more : 1 / 2 ≤ part)
    (greatest : part < 1) :
    ⌊(kept : ℚ) + part + 1 / 2⌋ = kept + 1 := by
  rw [Int.floor_eq_iff]
  push_cast
  constructor <;> linarith

theorem ceil_sub_half_of_le
    (least : 0 < part)
    (less : part ≤ 1 / 2) :
    ⌈(kept : ℚ) + part - 1 / 2⌉ = kept := by
  rw [Int.ceil_eq_iff]
  push_cast
  constructor <;> linarith

theorem ceil_sub_half_of_lt
    (more : 1 / 2 < part)
    (greatest : part < 1) :
    ⌈(kept : ℚ) + part - 1 / 2⌉ = kept + 1 := by
  rw [add_sub_assoc]
  exact ceil_add_part kept (by linarith) (by linarith)

/-- The kept digits go up by one where the mode takes the upper one of two integers. -/
theorem toInteger_add_part
    {dropped : Dropped}
    (describes : dropped.Describes part)
    (mode : RoundingMode) :
    mode.toInteger (kept + part) = if mode.raises false kept dropped then kept + 1 else kept := by
  cases dropped with
  | nothing =>
    rw [show part = 0 from describes, add_zero]
    exact_mod_cast mode.toInteger_intCast kept
  | belowHalf =>
    rcases describes with ⟨least, less⟩
    have sign : (0 : ℚ) ≤ kept + part := by positivity
    have floor := floor_add_part kept least.le (by linarith)
    have ceil := ceil_add_part kept least (by linarith)
    have lower := floor_add_half_of_lt kept least.le less
    have upper := ceil_sub_half_of_le kept least less.le
    cases mode <;> simp only [toInteger, raises, sign, floor, ceil, lower, upper] <;> simp
  | half =>
    have middle : part = 1 / 2 := describes
    have least : 0 < part := by linarith
    have greatest : part < 1 := by linarith
    have sign : (0 : ℚ) ≤ kept + part := by positivity
    have floor := floor_add_part kept least.le greatest
    have ceil := ceil_add_part kept least greatest.le
    have lower := floor_add_half_of_le kept middle.ge greatest
    have upper := ceil_sub_half_of_le kept least middle.le
    cases mode with
    | halfEven =>
      simp only [toInteger, raises, lower, upper]
      simp [Nat.odd_iff]
    | _ =>
      simp only [toInteger, raises, sign, floor, ceil, lower, upper, if_true]
      rfl
  | aboveHalf =>
    rcases describes with ⟨more, greatest⟩
    have least : 0 < part := by linarith
    have sign : (0 : ℚ) ≤ kept + part := by positivity
    have floor := floor_add_part kept least.le greatest
    have ceil := ceil_add_part kept least greatest.le
    have lower := floor_add_half_of_le kept more.le greatest
    have upper := ceil_sub_half_of_lt kept more greatest
    cases mode <;> simp only [toInteger, raises, sign, floor, ceil, lower, upper] <;> simp

end

/-- What is said of the kept digits of a negative number is said in the mirrored mode. -/
theorem raises_true
    (mode : RoundingMode)
    (kept : Nat)
    (dropped : Dropped) :
    mode.raises true kept dropped = mode.mirror.raises false kept dropped := by
  cases dropped <;> cases mode <;> rfl

end RoundingMode

/-! ## Rounding -/

namespace Decimal

/-- Dropping digits of a magnitude is rounding the number of units that it has. -/
theorem toInteger_div_pow
    (mode : RoundingMode)
    (coefficient excess : Nat) :
    mode.toInteger (coefficient / 10 ^ excess)
      = roundedCoefficient mode false coefficient excess := by
  have positive : 0 < 10 ^ excess := by positivity
  have unit : ((10 ^ excess : Nat) : ℚ) = 10 ^ excess := by push_cast; rfl
  have split : (coefficient : ℚ) / 10 ^ excess
      = (coefficient / 10 ^ excess : Nat)
        + (coefficient % 10 ^ excess : Nat) / (10 ^ excess : Nat) := by
    have whole : ((10 ^ excess * (coefficient / 10 ^ excess) + coefficient % 10 ^ excess : Nat) : ℚ)
        = coefficient := by
      rw [Nat.div_add_mod]
    rw [← unit, div_eq_iff (by positivity), add_mul, div_mul_cancel₀ _ (by positivity), ← whole]
    push_cast
    ring
  have describes := Dropped.describes_ofRemainder (Nat.mod_lt coefficient positive)
  rw [split, RoundingMode.toInteger_add_part _ describes, roundedCoefficient]
  simp only [Nat.pow_eq]

/-- The sign only turns the mode around. -/
theorem toInteger_signed_div_pow
    (mode : RoundingMode)
    (negative : Bool)
    (coefficient excess : Nat) :
    mode.toInteger (signed negative coefficient / 10 ^ excess)
      = signed negative (roundedCoefficient mode negative coefficient excess) := by
  cases negative with
  | false => exact toInteger_div_pow mode coefficient excess
  | true =>
    have mirrored : roundedCoefficient mode true coefficient excess
        = roundedCoefficient mode.mirror false coefficient excess := by
      simp only [roundedCoefficient, RoundingMode.raises_true]
    rw [mirrored, signed_true, signed_true, ← toInteger_div_pow, ← RoundingMode.toInteger_neg]
    push_cast
    rw [neg_div]

theorem roundedCoefficient_zero
    (mode : RoundingMode)
    (negative : Bool)
    (coefficient : Nat) :
    roundedCoefficient mode negative coefficient 0 = coefficient := by
  simp [roundedCoefficient, Dropped.ofRemainder, RoundingMode.raises, Nat.mod_one]

/-- Rounding a decimal is rounding the number that it stands for. -/
theorem toRat_round
    (context : Context)
    (value : Decimal) :
    (round context value).toRat = context.nearest value.toRat := by
  rcases value with ⟨negative, coefficient, exponent⟩ | _ | _
  · have last (positive : 0 < coefficient) :
        context.lastPlace (finite negative coefficient exponent).toRat
          = exponent + Text.digitCount coefficient - context.precision := by
      rw [Context.lastPlace, log_toRat positive, ceiling]
      ring
    rw [round]
    by_cases short : Text.digitCount coefficient ≤ context.precision
    · rw [Nat.sub_eq_zero_of_le short, roundedCoefficient_zero, Nat.cast_zero, add_zero]
      rcases Nat.eq_zero_or_pos coefficient with rfl | positive
      · simp
      · exact (context.nearest_of_multiple (by rw [← toRat, last positive]; omega)).symm
    · have positive : 0 < coefficient := by
        rcases Nat.eq_zero_or_pos coefficient with rfl | positive
        · simp at short
        · exact positive
      generalize equal : Text.digitCount coefficient - context.precision = excess
      have place : exponent + Text.digitCount coefficient - context.precision
          = exponent + excess := by omega
      have power := (ten_zpow_pos exponent).ne'
      rw [Context.nearest, last positive, place, toRat, toRat, ← toInteger_signed_div_pow]
      congr 3
      rw [zpow_add₀ (by norm_num), zpow_natCast]
      field_simp
  · simp [round, toRat]
  · simp [round, toRat]

end Decimal

end InfixCalc
