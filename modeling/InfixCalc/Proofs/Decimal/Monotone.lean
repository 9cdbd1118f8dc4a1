import InfixCalc.Proofs.Decimal.Nearest

/-!
# Rounding keeps the order

Of two numbers the smaller one is not rounded to more than the other one, whatever the
mode is: within the same power of ten both are measured in the same unit, and else
there is a power of ten between them, which every mode keeps.

What is not negative is rounded under `down` as under `floor` and under `up` as under
`ceil`; these two enclose the number itself and what any mode makes of it.  Where one
way of rounding is below another one in this sense, it stays so if numbers are rounded
that have been rounded before (`RoundsBelow`).
-/

namespace InfixCalc

namespace RoundingMode

variable {first second : ℚ}

theorem toInteger_halfEven_mono
    (order : first ≤ second) :
    toInteger halfEven first ≤ toInteger halfEven second := by
  have lower : ⌊first + 1 / 2⌋ ≤ ⌊second + 1 / 2⌋ := Int.floor_mono (by linarith)
  have upper : ⌈first - 1 / 2⌉ ≤ ⌈second - 1 / 2⌉ := Int.ceil_mono (by linarith)
  have beneath := ceil_sub_half_cases second
  have beside := ceil_sub_half_cases first
  simp only [toInteger]
  -- Either both ask for the parity of the same integer, or there is room for both neighbours.
  rcases lower.eq_or_lt with same | less
  · rw [same]
    split_ifs
    · exact le_rfl
    · exact upper
  · split_ifs <;> omega

/-- No mode changes the order of two numbers. -/
theorem toInteger_mono
    (mode : RoundingMode)
    (order : first ≤ second) :
    mode.toInteger first ≤ mode.toInteger second := by
  have floors : ⌊first⌋ ≤ ⌊second⌋ := Int.floor_mono order
  have ceils : ⌈first⌉ ≤ ⌈second⌉ := Int.ceil_mono order
  have lower : ⌊first + 1 / 2⌋ ≤ ⌊second + 1 / 2⌋ := Int.floor_mono (by linarith)
  have upper : ⌈first - 1 / 2⌉ ≤ ⌈second - 1 / 2⌉ := Int.ceil_mono (by linarith)
  rcases lt_or_ge first 0 with firstNegative | firstNonneg
  · rcases lt_or_ge second 0 with secondNegative | secondNonneg
    · cases mode with
      | halfEven => exact toInteger_halfEven_mono order
      | _ =>
        simp only [toInteger, firstNegative.not_ge, secondNegative.not_ge, if_false]
        assumption
    · calc
        mode.toInteger first ≤ ⌈first⌉ := (mode.floor_le_toInteger_le_ceil first).2
        _ ≤ 0 := Int.ceil_le.mpr (by exact_mod_cast firstNegative.le)
        _ ≤ ⌊second⌋ := Int.le_floor.mpr (by exact_mod_cast secondNonneg)
        _ ≤ mode.toInteger second := (mode.floor_le_toInteger_le_ceil second).1
  · have secondNonneg := firstNonneg.trans order
    cases mode with
    | halfEven => exact toInteger_halfEven_mono order
    | _ =>
      simp only [toInteger, firstNonneg, secondNonneg, if_true]
      assumption

/-- Two numbers that are measured in the same unit keep their order. -/
theorem toInteger_mul_mono
    (mode : RoundingMode)
    {unit : ℚ}
    (positive : 0 < unit)
    (order : first ≤ second) :
    mode.toInteger (first / unit) * unit ≤ mode.toInteger (second / unit) * unit := by
  have whole := mode.toInteger_mono (div_le_div_of_nonneg_right order positive.le)
  exact mul_le_mul_of_nonneg_right (by exact_mod_cast whole) positive.le

/-- A power of ten is left as it is if it is a multiple of the unit. -/
theorem toInteger_mul_pow
    (mode : RoundingMode)
    {last place : ℤ}
    (kept : last ≤ place) :
    (mode.toInteger (10 ^ place / 10 ^ last) : ℚ) * 10 ^ last = 10 ^ place := by
  have unit := (ten_zpow_pos last).ne'
  rw [ten_zpow_eq_multiple kept, mul_div_cancel_right₀ _ unit, toInteger_intCast]

end RoundingMode

namespace Context

variable
    (context : Context)
    {first second number : ℚ}
    {place : ℤ}

/-- A power of ten is not exceeded by rounding if its digit is kept. -/
theorem nearest_le_pow
    (bound : number ≤ 10 ^ place)
    (kept : context.lastPlace number ≤ place) :
    context.nearest number ≤ 10 ^ place := by
  rw [← context.mode.toInteger_mul_pow kept]
  exact context.mode.toInteger_mul_mono (ten_zpow_pos _) bound

theorem pow_le_nearest
    (bound : 10 ^ place ≤ number)
    (kept : context.lastPlace number ≤ place) :
    10 ^ place ≤ context.nearest number := by
  rw [← context.mode.toInteger_mul_pow kept]
  exact context.mode.toInteger_mul_mono (ten_zpow_pos _) bound

theorem nearest_nonneg
    (nonneg : 0 ≤ number) :
    0 ≤ context.nearest number := by
  have kept := context.mode.toInteger_mul_mono (ten_zpow_pos (context.lastPlace number)) nonneg
  rwa [zero_div, RoundingMode.toInteger_zero, Int.cast_zero, zero_mul] at kept

/-- Numbers that are not negative keep their order when they are rounded. -/
theorem nearest_mono
    (nonneg : 0 ≤ first)
    (order : first ≤ second) :
    context.nearest first ≤ context.nearest second := by
  rcases nonneg.eq_or_lt with zero | positive
  · rw [← zero, nearest_zero]
    exact context.nearest_nonneg (nonneg.trans order)
  · have secondPositive := positive.trans_le order
    have precise := context.precision_pos
    have firstPlaces : Int.log 10 first ≤ Int.log 10 second := Int.log_mono_right positive order
    have firstLast : context.lastPlace first = Int.log 10 first - context.precision + 1 := by
      rw [lastPlace, abs_of_pos positive]
    have secondLast : context.lastPlace second = Int.log 10 second - context.precision + 1 := by
      rw [lastPlace, abs_of_pos secondPositive]
    rcases firstPlaces.eq_or_lt with same | less
    · have last : context.lastPlace first = context.lastPlace second := by
        rw [firstLast, secondLast, same]
      rw [nearest, nearest, last]
      exact context.mode.toInteger_mul_mono (ten_zpow_pos _) order
    · calc
        context.nearest first ≤ 10 ^ (Int.log 10 first + 1) :=
          context.nearest_le_pow ((log_eq_iff positive).mp rfl).2.le (by omega)
        _ ≤ 10 ^ Int.log 10 second := zpow_le_zpow_right₀ (by norm_num) (by omega)
        _ ≤ context.nearest second :=
          context.pow_le_nearest ((log_eq_iff secondPositive).mp rfl).1 (by omega)

/-! ## Directed modes -/

/-- The context with the same precision and another mode. -/
def inMode
    (context : Context)
    (mode : RoundingMode) :
    Context :=
  { context with mode := mode }

theorem nearest_inMode
    (mode : RoundingMode)
    (number : ℚ) :
    (context.inMode mode).nearest number
      = mode.toInteger (number / 10 ^ context.lastPlace number)
        * 10 ^ context.lastPlace number := rfl

/--
Numbers above zero are cut off under `floor` as under `down`, and raised alike under the others.
-/
theorem nearest_directed
    (nonneg : 0 ≤ number) :
    (context.inMode .floor).nearest number = (context.inMode .down).nearest number ∧
      (context.inMode .ceil).nearest number = (context.inMode .up).nearest number := by
  have scaled := div_nonneg nonneg (ten_zpow_pos (context.lastPlace number)).le
  simp only [nearest_inMode, RoundingMode.toInteger, scaled, if_true]
  exact ⟨trivial, trivial⟩

/-- What any mode makes of a number is not below what `down` makes of it, nor above `up`. -/
theorem nearest_within
    (nonneg : 0 ≤ number)
    (mode : RoundingMode) :
    (context.inMode .down).nearest number ≤ (context.inMode mode).nearest number ∧
      (context.inMode mode).nearest number ≤ (context.inMode .up).nearest number := by
  have unit := ten_zpow_pos (context.lastPlace number)
  have scaled := div_nonneg nonneg unit.le
  rcases mode.floor_le_toInteger_le_ceil (number / 10 ^ context.lastPlace number) with
    ⟨least, greatest⟩
  simp only [← context.nearest_directed nonneg, nearest_inMode]
  constructor
  · exact mul_le_mul_of_nonneg_right (by exact_mod_cast least) unit.le
  · exact mul_le_mul_of_nonneg_right (by exact_mod_cast greatest) unit.le

/-- A number is not below what `down` makes of it, nor above what `up` makes of it. -/
theorem nearest_encloses
    (nonneg : 0 ≤ number) :
    (context.inMode .down).nearest number ≤ number ∧
      number ≤ (context.inMode .up).nearest number := by
  have unit := ten_zpow_pos (context.lastPlace number)
  rcases context.nearest_directed nonneg with ⟨floor, ceil⟩
  rw [← floor, ← ceil, nearest_inMode, nearest_inMode, ← le_div_iff₀ unit, ← div_le_iff₀ unit]
  exact ⟨Int.floor_le _, Int.le_ceil _⟩

end Context

/-! ## One way of rounding below another -/

/-- What is not negative stays so, and is not rounded to more than the same or more is. -/
structure RoundsBelow (lower upper : ℚ → ℚ) : Prop where
  nonneg : ∀ number, 0 ≤ number → 0 ≤ lower number
  order : ∀ first second, 0 ≤ first → first ≤ second → lower first ≤ upper second

namespace Context

variable
    (context : Context)

/-- Two modes are compared by what they make of the same number. -/
theorem roundsBelow
    {lower upper : RoundingMode}
    (below : ∀ number : ℚ, 0 ≤ number →
      (context.inMode lower).nearest number ≤ (context.inMode upper).nearest number) :
    RoundsBelow (context.inMode lower).nearest (context.inMode upper).nearest where
  nonneg := fun _ nonneg => (context.inMode lower).nearest_nonneg nonneg
  order := fun first _ nonneg order =>
    (below first nonneg).trans ((context.inMode upper).nearest_mono nonneg order)

theorem down_roundsBelow_id : RoundsBelow (context.inMode .down).nearest id where
  nonneg := fun _ nonneg => (context.inMode .down).nearest_nonneg nonneg
  order := fun _ _ nonneg order => (context.nearest_encloses nonneg).1.trans order

theorem id_roundsBelow_up : RoundsBelow id (context.inMode .up).nearest where
  nonneg := fun _ nonneg => nonneg
  order := fun _ _ nonneg order => order.trans (context.nearest_encloses (nonneg.trans order)).2

end Context

end InfixCalc
