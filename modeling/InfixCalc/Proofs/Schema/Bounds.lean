import InfixCalc.Proofs.Double.Exact
import InfixCalc.Proofs.Schema.Read
import InfixCalc.Schema.Catalog

/-!
# Whole numbers within bounds

A rule that refuses fractions and has two bounds finds nothing wrong with the whole
numbers between the bounds, and with no other double.
-/

namespace InfixCalc

/-- The double is a whole number between two others. -/
def Double.IsWholeWithin
    (low high : Nat)
    (value : Double) :
    Prop :=
  ∃ whole : Nat, low ≤ whole ∧ whole ≤ high ∧ value.toRat? = some (whole : ℚ)

theorem Double.IsWholeWithin.ne_nan
    {low high : Nat}
    {value : Double}
    (within : value.IsWholeWithin low high) :
    value ≠ .nan := by
  rintro rfl
  rcases within with ⟨whole, _, _, impossible⟩
  cases impossible

/-- The rule wants a whole number between two others. -/
structure NumberRule.Bounds
    (rule : NumberRule)
    (low high : Nat) :
    Prop where
  integer : rule.integer = true
  minimum : rule.minimum = some low
  maximum : rule.maximum = some high

namespace NumberRule.Bounds

variable
    {rule : NumberRule}
    {low high : Nat}
    (bounds : rule.Bounds low high)

include bounds

theorem complaints_eq_nil_iff {value : Double} :
    rule.complaints value = [] ↔ value.IsWholeWithin low high := by
  have noComplaints : rule.complaints value = [] ↔
      value.isInteger = true ∧ value.ltNat low = false ∧ value.gtNat high = false := by
    simp [complaints, bounds.integer, bounds.minimum, bounds.maximum, List.filter_cons]
  rw [noComplaints]
  cases finite : value.toRat? with
  | none =>
    apply iff_of_false
    · rintro ⟨isInteger, _⟩
      cases value with
      | finite negative significand exponent => cases finite
      | infinite negative => cases isInteger
      | nan => cases isInteger
    · rintro ⟨whole, _, _, impossible⟩
      rw [finite] at impossible
      cases impossible
  | some number =>
    rw [Bool.eq_false_iff, Bool.eq_false_iff, ne_eq, ne_eq, Double.isInteger_iff finite,
      Double.ltNat_iff finite, Double.gtNat_iff finite, not_lt, not_lt]
    constructor
    · rintro ⟨⟨whole, rfl⟩, above, below⟩
      have natural : 0 ≤ whole := by
        exact_mod_cast (Nat.cast_nonneg low).trans above
      lift whole to Nat using natural
      exact ⟨whole, by exact_mod_cast above, by exact_mod_cast below, by exact_mod_cast finite⟩
    · rintro ⟨whole, above, below, same⟩
      rw [finite] at same
      cases same
      exact ⟨⟨whole, rfl⟩, by exact_mod_cast above, by exact_mod_cast below⟩

/-- What is accepted is a number within the bounds. -/
theorem read_ok_iff {value data : Option Json} :
    (Schema.number rule).read value = .ok data ↔
      ∃ number, rule.input value = some (.number number) ∧
        data = some (.number number) ∧
        number.IsWholeWithin low high := by
  constructor
  · intro accepted
    rcases Schema.read_number_ok accepted with ⟨number, found, same, fine⟩
    exact ⟨number, found, same, bounds.complaints_eq_nil_iff.mp fine⟩
  · rintro ⟨number, found, rfl, within⟩
    exact Schema.read_number_of_fine found within.ne_nan (bounds.complaints_eq_nil_iff.mpr within)

/-- A number that may be left out is left out or within the bounds. -/
theorem read_optional_ok_iff {value data : Option Json} :
    (Schema.optional (.number rule)).read value = .ok data ↔
      ∃ number : Option Double,
        (value.map fun given => rule.input (some given))
            = number.map (fun one => some (.number one)) ∧
          data = number.map .number ∧
          ∀ one ∈ number, one.IsWholeWithin low high := by
  cases value with
  | none =>
    rw [Schema.read_optional_none]
    constructor
    · rintro ⟨⟩
      exact ⟨none, rfl, rfl, nofun⟩
    · rintro ⟨number, missing, rfl, _⟩
      cases number with
      | none => rfl
      | some one => cases missing
  | some given =>
    rw [Schema.read_optional_some, bounds.read_ok_iff]
    constructor
    · rintro ⟨one, found, rfl, within⟩
      refine ⟨some one, congrArg some found, rfl, ?_⟩
      rintro _ ⟨⟩
      exact within
    · rintro ⟨number, found, rfl, within⟩
      cases number with
      | none => cases found
      | some one => exact ⟨one, Option.some.inj found, rfl, within one rfl⟩

end NumberRule.Bounds

theorem Schema.bounds_digitRule : digitRule.Bounds 1 1000 := ⟨rfl, rfl, rfl⟩

end InfixCalc
