import InfixCalc.Text
import Mathlib.Data.Nat.Notation

/-!
# Code points and the units that write them

Joining surrogate pairs loses nothing: the units of all code points, one after the
other, are the text.  This holds for every text, since a surrogate without its
partner is a code point of its own.
-/

namespace InfixCalc.Text

theorem toNat_toUInt16
    {number : Nat}
    (small : number < 0x10000) :
    number.toUInt16.toNat = number :=
  Nat.mod_eq_of_lt small

theorem isHighSurrogate_iff
    {unit : CodeUnit} :
    unit.isHighSurrogate ↔ 0xD800 ≤ unit.toNat ∧ unit.toNat ≤ 0xDBFF := by
  simp [CodeUnit.isHighSurrogate, UInt16.le_iff_toNat_le]

theorem ofCodePoint_toNat (unit : CodeUnit) : ofCodePoint unit.toNat = [unit] := by
  rw [ofCodePoint, if_pos unit.toNat_lt]
  exact congrArg (fun found => [found]) (UInt16.toNat.inj (toNat_toUInt16 unit.toNat_lt))

/-- A pair is written as its two halves. -/
theorem ofCodePoint_pair
    {unit : CodeUnit}
    {low : Nat}
    (high : 0xD800 ≤ unit.toNat ∧ unit.toNat ≤ 0xDBFF)
    (isLow : 0xDC00 ≤ low ∧ low ≤ 0xDFFF) :
    ofCodePoint (0x10000 + (unit.toNat - 0xD800) * 0x400 + (low - 0xDC00))
      = [unit, low.toUInt16] := by
  have quotient : 0xD800 + (0x10000 + (unit.toNat - 0xD800) * 0x400 + (low - 0xDC00) - 0x10000)
      / 0x400 = unit.toNat := by
    omega
  have remainder : 0xDC00 + (0x10000 + (unit.toNat - 0xD800) * 0x400 + (low - 0xDC00) - 0x10000)
      % 0x400 = low := by
    omega
  rw [ofCodePoint, if_neg (by omega), quotient, remainder]
  exact congrArg (fun found => [found, low.toUInt16])
    (UInt16.toNat.inj (toNat_toUInt16 unit.toNat_lt))

theorem flatMap_consUnit
    (unit : CodeUnit)
    (following : List Nat) :
    (consUnit unit following).flatMap ofCodePoint
      = unit :: following.flatMap ofCodePoint := by
  cases following with
  | nil => simp [consUnit, ofCodePoint_toNat]
  | cons next rest =>
    rw [consUnit]
    split
    · rename_i pair
      simp only [Bool.and_eq_true, isHighSurrogate_iff, decide_eq_true_eq] at pair
      have low : ofCodePoint next = [next.toUInt16] := by
        rw [ofCodePoint, if_pos (by omega)]
      rw [List.flatMap_cons, List.flatMap_cons, low, ofCodePoint_pair pair.1.1 ⟨pair.1.2, pair.2⟩]
      rfl
    · rw [List.flatMap_cons, ofCodePoint_toNat]
      rfl

/-- The units of all code points are the text. -/
theorem flatMap_codePoints (text : Text) : text.codePoints.flatMap ofCodePoint = text := by
  induction text with
  | nil => rfl
  | cons unit rest inner => rw [codePoints_cons, flatMap_consUnit, inner]

/-- No code point is beyond the last one. -/
theorem lt_of_mem_codePoints
    {text : Text}
    {point : Nat}
    (member : point ∈ text.codePoints) :
    point < 0x110000 := by
  induction text generalizing point with
  | nil => cases member
  | cons unit rest inner =>
    have bounded := unit.toNat_lt
    rw [codePoints_cons] at member
    unfold consUnit at member
    split at member
    · rw [List.mem_singleton.mp member]
      omega
    · rename_i next others joined
      rw [joined] at inner
      split at member
      · rename_i pair
        simp only [Bool.and_eq_true, isHighSurrogate_iff, decide_eq_true_eq] at pair
        rcases List.mem_cons.mp member with joint | later
        · omega
        · exact inner (List.mem_cons_of_mem _ later)
      · rcases List.mem_cons.mp member with own | later
        · omega
        · exact inner later

end InfixCalc.Text
