import InfixCalc.Decimal.Rounding
import Mathlib.Algebra.Order.Floor.Ring
import Mathlib.Algebra.Ring.Int.Parity
import Mathlib.Data.Int.Log
import Mathlib.Data.Rat.Floor
import Mathlib.Tactic.FieldSimp
import Mathlib.Tactic.Linarith
import Mathlib.Tactic.LinearCombination
import Mathlib.Tactic.NormNum
import Mathlib.Tactic.Positivity
import Mathlib.Tactic.Ring

/-!
# Rounding rational numbers to integers

What the modes mean, said of rational numbers alone: floors and ceilings tell
which of the two integers around a number is taken, so that nothing here depends
on how digits are stored or dropped.

Numbers in the same gap have no multiple of a unit between them.  Where halves
are the unit, no mode tells them apart.
-/

namespace InfixCalc

namespace RoundingMode

/-- The integer that a mode makes of a number. -/
def toInteger
    (mode : RoundingMode)
    (number : ℚ) :
    ℤ :=
  match mode with
  | up => if 0 ≤ number then ⌈number⌉ else ⌊number⌋
  | down => if 0 ≤ number then ⌊number⌋ else ⌈number⌉
  | ceil => ⌈number⌉
  | floor => ⌊number⌋
  | halfUp => if 0 ≤ number then ⌊number + 1 / 2⌋ else ⌈number - 1 / 2⌉
  | halfDown => if 0 ≤ number then ⌈number - 1 / 2⌉ else ⌊number + 1 / 2⌋
  | halfEven => if Even ⌊number + 1 / 2⌋ then ⌊number + 1 / 2⌋ else ⌈number - 1 / 2⌉
  | halfCeil => ⌊number + 1 / 2⌋
  | halfFloor => ⌈number - 1 / 2⌉

/-- The mode that treats negative numbers as this one treats positive ones. -/
def mirror : RoundingMode → RoundingMode
  | ceil => floor
  | floor => ceil
  | halfCeil => halfFloor
  | halfFloor => halfCeil
  | up => up
  | down => down
  | halfUp => halfUp
  | halfDown => halfDown
  | halfEven => halfEven

theorem floor_half (number : ℤ) : ⌊(number : ℚ) + 1 / 2⌋ = number := by
  rw [Int.floor_eq_iff]
  constructor <;> linarith

theorem ceil_half (number : ℤ) : ⌈(number : ℚ) - 1 / 2⌉ = number := by
  rw [Int.ceil_eq_iff]
  constructor <;> linarith

@[simp]
theorem toInteger_intCast
    (mode : RoundingMode)
    (number : ℤ) :
    mode.toInteger number = number := by
  cases mode <;>
    simp only [toInteger, floor_half, ceil_half, Int.floor_intCast, Int.ceil_intCast, ite_self]

@[simp]
theorem toInteger_zero (mode : RoundingMode) : mode.toInteger 0 = 0 := by
  exact_mod_cast mode.toInteger_intCast 0

/-- The neighbours at half a unit either way are the same, or the upper one is one more. -/
theorem ceil_sub_half_cases (number : ℚ) :
    ⌈number - 1 / 2⌉ = ⌊number + 1 / 2⌋ ∨ ⌈number - 1 / 2⌉ = ⌊number + 1 / 2⌋ - 1 := by
  have below := Int.floor_le (number + 1 / 2)
  have above := Int.lt_floor_add_one (number + 1 / 2)
  generalize ⌊number + 1 / 2⌋ = whole at below above ⊢
  rcases below.eq_or_lt with tie | apart
  · right
    rw [Int.ceil_eq_iff]
    push_cast
    constructor <;> linarith
  · left
    rw [Int.ceil_eq_iff]
    constructor <;> linarith

theorem floor_neg_add_half (number : ℚ) : ⌊-number + 1 / 2⌋ = -⌈number - 1 / 2⌉ := by
  rw [← Int.floor_neg]
  congr 1
  ring

theorem ceil_neg_sub_half (number : ℚ) : ⌈-number - 1 / 2⌉ = -⌊number + 1 / 2⌋ := by
  rw [← Int.ceil_neg]
  congr 1
  ring

theorem toInteger_halfEven_neg (number : ℚ) :
    toInteger halfEven (-number) = -toInteger halfEven number := by
  simp only [toInteger, floor_neg_add_half, ceil_neg_sub_half, even_neg]
  rcases ceil_sub_half_cases number with same | less
  · rw [same, ite_self, ite_self]
  · rw [less]
    generalize ⌊number + 1 / 2⌋ = whole
    by_cases even : Even whole
    · simp [even]
    · simp [even]

/-- Rounding the negative of a number is rounding the number in the mirrored mode. -/
theorem toInteger_neg
    (mode : RoundingMode)
    (number : ℚ) :
    mode.toInteger (-number) = -mode.mirror.toInteger number := by
  rcases lt_trichotomy number 0 with negative | rfl | positive
  · have first : (0 : ℚ) ≤ -number := by linarith
    have second : ¬ 0 ≤ number := by linarith
    -- Ties to even look at the integer itself; all other modes swap floors and ceilings.
    cases mode with
    | halfEven => exact toInteger_halfEven_neg number
    | _ =>
      simp only [toInteger, mirror, first, second, if_true, if_false, Int.floor_neg, Int.ceil_neg,
        floor_neg_add_half, ceil_neg_sub_half]
  · simp
  · have first : ¬ (0 : ℚ) ≤ -number := by linarith
    have second : 0 ≤ number := by linarith
    cases mode with
    | halfEven => exact toInteger_halfEven_neg number
    | _ =>
      simp only [toInteger, mirror, first, second, if_true, if_false, Int.floor_neg, Int.ceil_neg,
        floor_neg_add_half, ceil_neg_sub_half]

/-- A tie below zero goes up as the one above zero goes down. -/
example : toInteger halfCeil (-(5 / 2)) = -2 ∧ toInteger halfFloor (5 / 2) = 2 := by
  decide +kernel

/-- Every mode takes one of the two integers around a number. -/
theorem floor_le_toInteger_le_ceil
    (mode : RoundingMode)
    (number : ℚ) :
    ⌊number⌋ ≤ mode.toInteger number ∧ mode.toInteger number ≤ ⌈number⌉ := by
  have order := Int.floor_le_ceil number
  have first : ⌊number⌋ ≤ ⌊number + 1 / 2⌋ := Int.floor_mono (by linarith)
  have second : ⌊number + 1 / 2⌋ ≤ ⌈number⌉ := by
    rw [← Int.lt_add_one_iff, Int.floor_lt]
    push_cast
    linarith [Int.le_ceil number]
  have third : ⌊number⌋ ≤ ⌈number - 1 / 2⌉ := by
    rw [← Int.sub_one_lt_iff, Int.lt_ceil]
    push_cast
    linarith [Int.floor_le number]
  have fourth : ⌈number - 1 / 2⌉ ≤ ⌈number⌉ := Int.ceil_mono (by linarith)
  cases mode with
  | ceil => exact ⟨order, le_rfl⟩
  | floor => exact ⟨le_rfl, order⟩
  | halfCeil => exact ⟨first, second⟩
  | halfFloor => exact ⟨third, fourth⟩
  | _ =>
    simp only [toInteger]
    split_ifs <;> omega

theorem abs_toInteger_le
    (mode : RoundingMode)
    {number : ℚ}
    {bound : ℤ}
    (bounded : |number| ≤ bound) :
    |mode.toInteger number| ≤ bound := by
  rcases mode.floor_le_toInteger_le_ceil number with ⟨above, below⟩
  rcases abs_le.mp bounded with ⟨least, greatest⟩
  have lower : -bound ≤ ⌊number⌋ := by
    rw [Int.le_floor]
    exact_mod_cast least
  have upper : ⌈number⌉ ≤ bound := Int.ceil_le.mpr greatest
  rw [abs_le]
  omega

end RoundingMode

/-! ## Numbers between the same multiples -/

/-- No multiple of the unit lies between the two numbers or is one of them. -/
def SameGap (unit first second : ℚ) : Prop :=
  ∀ count : ℤ,
    count * unit < first ∧ count * unit < second ∨ first < count * unit ∧ second < count * unit

namespace SameGap

variable {unit first second : ℚ}

theorem neg
    (gap : SameGap unit first second) :
    SameGap unit (-first) (-second) := by
  intro count
  have mirrored := gap (-count)
  push_cast at mirrored
  rcases mirrored with below | above
  · right
    constructor <;> linarith
  · left
    constructor <;> linarith

theorem add_multiple
    (gap : SameGap unit first second)
    (shift : ℤ) :
    SameGap unit (shift * unit + first) (shift * unit + second) := by
  intro count
  have moved := gap (count - shift)
  push_cast at moved
  rcases moved with below | above
  · left
    constructor <;> linarith
  · right
    constructor <;> linarith

/-- The multiples of a multiple are multiples. -/
theorem coarser
    (gap : SameGap unit first second)
    (factor : ℤ) :
    SameGap (factor * unit) first second := by
  intro count
  have finer := gap (count * factor)
  push_cast at finer
  rwa [mul_assoc] at finer

theorem div
    {scale : ℚ}
    (positive : 0 < scale)
    (gap : SameGap (unit * scale) first second) :
    SameGap unit (first / scale) (second / scale) := by
  intro count
  have scaled := gap count
  simp only [lt_div_iff₀ positive, div_lt_iff₀ positive, mul_assoc]
  exact scaled

/-- Numbers between two neighbouring multiples share their gap. -/
theorem of_between
    (positive : 0 < unit)
    (count : ℤ)
    (firstBelow : count * unit < first)
    (firstAbove : first < (count + 1) * unit)
    (secondBelow : count * unit < second)
    (secondAbove : second < (count + 1) * unit) :
    SameGap unit first second := by
  intro other
  rcases le_or_gt other count with before | behind
  · left
    have order : (other : ℚ) * unit ≤ count * unit := by
      gcongr
    constructor <;> linarith
  · right
    have order : ((count : ℚ) + 1) * unit ≤ other * unit := by
      gcongr
      exact_mod_cast behind
    constructor <;> linarith

theorem le_iff
    (gap : SameGap unit first second)
    (count : ℤ) :
    count * unit ≤ first ↔ count * unit ≤ second := by
  rcases gap count with below | above
  · exact iff_of_true below.1.le below.2.le
  · exact iff_of_false above.1.not_ge above.2.not_ge

theorem ge_iff
    (gap : SameGap unit first second)
    (count : ℤ) :
    first ≤ count * unit ↔ second ≤ count * unit := by
  rcases gap count with below | above
  · exact iff_of_false below.1.not_ge below.2.not_ge
  · exact iff_of_true above.1.le above.2.le

/-- Both numbers are on the same side of zero. -/
theorem abs
    (gap : SameGap unit first second) :
    SameGap unit |first| |second| := by
  have sides := gap 0
  simp only [Int.cast_zero, zero_mul] at sides
  rcases sides with ⟨firstSide, secondSide⟩ | ⟨firstSide, secondSide⟩
  · rwa [abs_of_pos firstSide, abs_of_pos secondSide]
  · rw [abs_of_neg firstSide, abs_of_neg secondSide]
    exact gap.neg

theorem floor_eq
    (gap : SameGap (1 / 2) first second)
    (halves : ℤ) :
    ⌊first + halves / 2⌋ = ⌊second + halves / 2⌋ := by
  apply eq_of_forall_le_iff
  intro bound
  have compared := gap.le_iff (2 * bound - halves)
  push_cast at compared
  rw [Int.le_floor, Int.le_floor]
  constructor
  · intro below
    linarith [compared.mp (by linarith)]
  · intro below
    linarith [compared.mpr (by linarith)]

theorem ceil_eq
    (gap : SameGap (1 / 2) first second)
    (halves : ℤ) :
    ⌈first + halves / 2⌉ = ⌈second + halves / 2⌉ := by
  apply eq_of_forall_ge_iff
  intro bound
  have compared := gap.ge_iff (2 * bound - halves)
  push_cast at compared
  rw [Int.ceil_le, Int.ceil_le]
  constructor
  · intro above
    linarith [compared.mp (by linarith)]
  · intro above
    linarith [compared.mpr (by linarith)]

/-- No mode tells two numbers apart that no half of an integer separates. -/
theorem toInteger_eq
    (gap : SameGap (1 / 2) first second)
    (mode : RoundingMode) :
    mode.toInteger first = mode.toInteger second := by
  have sign : 0 ≤ first ↔ 0 ≤ second := by
    simpa using gap.le_iff 0
  have floors : ⌊first⌋ = ⌊second⌋ := by
    simpa using gap.floor_eq 0
  have ceils : ⌈first⌉ = ⌈second⌉ := by
    simpa using gap.ceil_eq 0
  have lower : ⌊first + 1 / 2⌋ = ⌊second + 1 / 2⌋ := by
    have shifted := gap.floor_eq 1
    rwa [Int.cast_one] at shifted
  have upper : ⌈first - 1 / 2⌉ = ⌈second - 1 / 2⌉ := by
    have shifted := gap.ceil_eq (-1)
    push_cast at shifted
    rwa [neg_div, ← sub_eq_add_neg, ← sub_eq_add_neg] at shifted
  simp only [RoundingMode.toInteger, sign, floors, ceils, lower, upper]

end SameGap

end InfixCalc
