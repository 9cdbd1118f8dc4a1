import InfixCalc.Proofs.Double.Exact
import InfixCalc.Proofs.Text.Decoding
import InfixCalc.Service.Body

/-!
# Bodies and their portions

A body is read just if all its bytes together are no more than the limit, and what is read is
what the bytes together mean.  So it does not matter how they were cut into portions, even
where a cut goes through a character.
-/

namespace InfixCalc

/-! ## Limits -/

/-- The limit lets so many bytes through. -/
def Double.AtLeast
    (limit : Double)
    (size : Nat) :
    Prop :=
  limit = .infinite false ∨ ∃ number, limit.toRat? = some number ∧ (size : ℚ) ≤ number

namespace Double.AtLeast

variable
    {limit : Double}
    {size : Nat}

theorem weaken
    (atLeast : limit.AtLeast size)
    {smaller : Nat}
    (le : smaller ≤ size) :
    limit.AtLeast smaller := by
  rcases atLeast with infinite | ⟨number, finite, bound⟩
  · exact .inl infinite
  · exact .inr ⟨number, finite, le_trans (by exact_mod_cast le) bound⟩

/-- A limit that is not negative is below a size just if it does not let so many bytes through. -/
theorem iff_ltNat
    (nonneg : limit.AtLeast 0) :
    limit.AtLeast size ↔ limit.ltNat size = false := by
  rcases nonneg with rfl | ⟨number, finite, _⟩
  · exact iff_of_true (.inl rfl) rfl
  · rw [Bool.eq_false_iff, ne_eq, ltNat_iff finite, not_lt]
    constructor
    · rintro (rfl | ⟨other, same, bound⟩)
      · cases finite
      · rw [finite] at same
        cases same
        exact bound
    · exact fun bound => .inr ⟨number, finite, bound⟩

theorem ofNat_iff
    {bound : Nat}
    (small : bound < Double.significandBound) :
    (Double.ofNat bound).AtLeast size ↔ size ≤ bound := by
  have value := toRat?_ofNat small
  constructor
  · rintro (infinite | ⟨number, finite, fits⟩)
    · rw [infinite] at value
      cases value
    · rw [value] at finite
      cases finite
      exact_mod_cast fits
  · exact fun fits => .inr ⟨bound, value, by exact_mod_cast fits⟩

end Double.AtLeast

/-! ## Reading -/

namespace Body

variable {limit : Double}

/-- The running total passes the limit just if the whole does. -/
theorem exceeds_eq_false_iff
    {size : Nat}
    (fits : limit.AtLeast size)
    {portions : List (List UInt8)} :
    exceeds limit size portions = false ↔ limit.AtLeast (size + portions.flatten.length) := by
  have nonneg : limit.AtLeast 0 := fits.weaken (Nat.zero_le size)
  induction portions generalizing size with
  | nil => exact iff_of_true rfl fits
  | cons portion rest inner =>
    rw [exceeds, Bool.or_eq_false_iff, ← Double.AtLeast.iff_ltNat nonneg, List.flatten_cons,
      List.length_append, ← Nat.add_assoc]
    constructor
    · rintro ⟨first, later⟩
      exact (inner first).mp later
    · intro whole
      have first := whole.weaken (Nat.le_add_right _ _)
      exact ⟨first, (inner first).mpr whole⟩

variable
    (nonneg : limit.AtLeast 0)
    (portions : List (List UInt8))

include nonneg

theorem read_of_atLeast (fits : limit.AtLeast portions.flatten.length) :
    read limit ⟨portions, false⟩ = .ok (Text.Utf8.decode portions.flatten) := by
  have within : exceeds limit 0 portions = false := by
    rwa [exceeds_eq_false_iff nonneg, Nat.zero_add]
  simp [read, within]

theorem read_of_not_atLeast (tooLarge : ¬ limit.AtLeast portions.flatten.length) :
    read limit ⟨portions, false⟩ = .error (.tooLarge limit) := by
  have beyond : exceeds limit 0 portions = true := by
    rw [← Bool.not_eq_false, exceeds_eq_false_iff nonneg, Nat.zero_add]
    exact tooLarge
  simp [read, beyond]

end Body

/--
A body within the limit is read as what its bytes together mean, a larger one is refused, and
the portions have no part in it.  In particular the bytes of a text without lone surrogates
are read as that text.
-/
theorem portions_immaterial
    (limit : Double)
    (nonneg : limit.AtLeast 0) :
    (∀ portions : List (List UInt8),
        (limit.AtLeast portions.flatten.length →
            ∃ body, Body.read limit ⟨portions, false⟩ = .ok body ∧
              Text.Utf8.Decodes portions.flatten body) ∧
          (¬ limit.AtLeast portions.flatten.length →
            Body.read limit ⟨portions, false⟩ = .error (.tooLarge limit))) ∧
      (∀ first second : List (List UInt8), first.flatten = second.flatten →
        Body.read limit ⟨first, false⟩ = Body.read limit ⟨second, false⟩) ∧
      ∀ body : Text, body.Paired → limit.AtLeast (Text.Utf8.encode body).length →
        ∀ portions : List (List UInt8), portions.flatten = Text.Utf8.encode body →
          Body.read limit ⟨portions, false⟩ = .ok body := by
  refine ⟨?_, ?_, ?_⟩
  · intro portions
    constructor
    · intro fits
      exact ⟨_, Body.read_of_atLeast nonneg portions fits, Text.Utf8.decodes_iff.mpr rfl⟩
    · exact Body.read_of_not_atLeast nonneg portions
  · intro first second same
    by_cases fits : limit.AtLeast first.flatten.length
    · rw [Body.read_of_atLeast nonneg first fits, Body.read_of_atLeast nonneg second (same ▸ fits),
        same]
    · rw [Body.read_of_not_atLeast nonneg first fits,
        Body.read_of_not_atLeast nonneg second (same ▸ fits)]
  · intro body paired fits portions whole
    rw [← whole] at fits
    rw [Body.read_of_atLeast nonneg portions fits, whole,
      Text.Utf8.decodes_iff.mp (Text.Utf8.decodes_encode paired)]

/-- A character of four bytes, cut in the middle, under a limit of four bytes. -/
theorem portions_immaterial_cut_character :
    (Double.ofNat 4).AtLeast 0 ∧
      Body.read (.ofNat 4) ⟨[[0xF0, 0x9F], [], [0x98, 0x80]], false⟩ = .ok [0xD83D, 0xDE00] := by
  have nonneg : (Double.ofNat 4).AtLeast 0 :=
    (Double.AtLeast.ofNat_iff (by decide)).mpr (Nat.zero_le 4)
  have paired : Text.Paired [0xD83D, 0xDE00] := .pair (by decide) (by decide) .nil
  have fits : (Double.ofNat 4).AtLeast (Text.Utf8.encode [0xD83D, 0xDE00]).length :=
    (Double.AtLeast.ofNat_iff (by decide)).mpr (by decide)
  exact ⟨nonneg, (portions_immaterial _ nonneg).2.2 _ paired fits _ (by decide)⟩

end InfixCalc
