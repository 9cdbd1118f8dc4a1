import InfixCalc.Proofs.Decimal.Plain

/-!
# Places in front of the point and behind it

How many digits an exact sum or product can have is seen from its places: a sum needs
one place more than its summands in front of the point and none more behind it, and a
product needs the places of both factors.  A literal has no more places than units.
So the length of an expression bounds the digits of its exact value.
-/

namespace InfixCalc

/-- The number is less than the power of ten, and a multiple of the inverse one. -/
structure HasPlaces
    (whole places : Nat)
    (number : ℚ) :
    Prop where
  bounded : |number| < 10 ^ whole
  granular : ∃ coefficient : ℤ, number = coefficient / 10 ^ places

namespace HasPlaces

variable
    {whole places otherWhole otherPlaces : Nat}
    {number other : ℚ}

/-- Places in front of the point and behind it are significant digits together. -/
theorem hasDigits
    (has : HasPlaces whole places number)
    {count : Nat}
    (enough : whole + places ≤ count) :
    HasDigits count number := by
  rcases has.granular with ⟨coefficient, rfl⟩
  have unit : (0 : ℚ) < 10 ^ places := by positivity
  refine ⟨coefficient, -places, ?_, ?_⟩
  · have bounded := has.bounded
    rw [abs_div, abs_of_pos unit, div_lt_iff₀ unit, ← pow_add] at bounded
    have small : (|coefficient| : ℤ) < 10 ^ (whole + places) := by
      exact_mod_cast bounded
    exact small.trans_le (pow_le_pow_right₀ (by norm_num) enough)
  · rw [zpow_neg, zpow_natCast, div_eq_mul_inv]

theorem weaken
    (has : HasPlaces whole places number)
    (moreWhole : whole ≤ otherWhole)
    (morePlaces : places ≤ otherPlaces) :
    HasPlaces otherWhole otherPlaces number := by
  rcases has.granular with ⟨coefficient, same⟩
  refine ⟨has.bounded.trans_le (pow_le_pow_right₀ (by norm_num) moreWhole),
    coefficient * 10 ^ (otherPlaces - places), ?_⟩
  have split : (10 : ℚ) ^ otherPlaces = 10 ^ (otherPlaces - places) * 10 ^ places := by
    rw [← pow_add, Nat.sub_add_cancel morePlaces]
  rw [same, split]
  push_cast
  field_simp

theorem neg
    (has : HasPlaces whole places number) :
    HasPlaces whole places (-number) := by
  rcases has.granular with ⟨coefficient, same⟩
  refine ⟨by rw [abs_neg]; exact has.bounded, -coefficient, ?_⟩
  rw [same]
  push_cast
  ring

theorem add
    (has : HasPlaces whole places number)
    (otherHas : HasPlaces otherWhole otherPlaces other) :
    HasPlaces (max whole otherWhole + 1) (max places otherPlaces) (number + other) := by
  have first := has.weaken (le_max_left whole otherWhole) (le_max_left places otherPlaces)
  have second := otherHas.weaken (le_max_right whole otherWhole) (le_max_right places otherPlaces)
  rcases first.granular with ⟨coefficient, same⟩
  rcases second.granular with ⟨otherCoefficient, otherSame⟩
  refine ⟨?_, coefficient + otherCoefficient, ?_⟩
  · have power : (0 : ℚ) < 10 ^ max whole otherWhole := by positivity
    calc
      |number + other| ≤ |number| + |other| := abs_add_le number other
      _ < 10 ^ max whole otherWhole + 10 ^ max whole otherWhole :=
        add_lt_add first.bounded second.bounded
      _ ≤ 10 ^ (max whole otherWhole + 1) := by
        rw [pow_succ]
        linarith
  · rw [same, otherSame]
    push_cast
    ring

theorem mul
    (has : HasPlaces whole places number)
    (otherHas : HasPlaces otherWhole otherPlaces other) :
    HasPlaces (whole + otherWhole) (places + otherPlaces) (number * other) := by
  rcases has.granular with ⟨coefficient, same⟩
  rcases otherHas.granular with ⟨otherCoefficient, otherSame⟩
  refine ⟨?_, coefficient * otherCoefficient, ?_⟩
  · rw [abs_mul, pow_add]
    exact mul_lt_mul'' has.bounded otherHas.bounded (abs_nonneg _) (abs_nonneg _)
  · rw [same, otherSame, pow_add]
    push_cast
    ring

end HasPlaces

/-- The places of a literal are among its units. -/
theorem Literal.Written.exists_hasPlaces
    {literal : Text}
    (written : Written literal) :
    ∃ whole places,
      whole + places ≤ literal.length ∧ HasPlaces whole places (value literal).toRat := by
  cases written with
  | whole digit nonempty =>
    have less : (Text.numeralValue literal : ℚ) < 10 ^ literal.length := by
      exact_mod_cast Text.numeralValue_lt digit
    refine ⟨literal.length, 0, le_rfl, ?_⟩
    rw [toRat_value_of_number? (number?_whole digit nonempty)]
    exact ⟨by rwa [Nat.abs_cast], Text.numeralValue literal, by simp⟩
  | @fraction whole digits wholeDigit digit nonempty =>
    have less : (Text.numeralValue (whole ++ digits) : ℚ)
        < 10 ^ whole.length * 10 ^ digits.length := by
      have all := Text.numeralValue_lt (List.forall_mem_append.mpr ⟨wholeDigit, digit⟩)
      rw [List.length_append, pow_add] at all
      exact_mod_cast all
    refine ⟨whole.length, digits.length, ?_, ?_⟩
    · rw [List.length_append, List.length_cons]
      omega
    · rw [toRat_value_of_number? (number?_fraction wholeDigit digit nonempty)]
      refine ⟨?_, Text.numeralValue (whole ++ digits), by simp⟩
      rw [abs_of_nonneg (by positivity), div_lt_iff₀ (by positivity)]
      exact less

end InfixCalc
