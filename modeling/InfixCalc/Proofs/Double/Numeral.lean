import InfixCalc.Double.Printer
import InfixCalc.Double.Reader
import InfixCalc.Proofs.Double.Exact
import InfixCalc.Proofs.Text.Numeral
import InfixCalc.Proofs.Text.Scientific
import Mathlib.Data.List.TakeWhile

/-!
# Integers as doubles and as texts

All readers of doubles take a numeral for the double nearest to its number.  An integer
whose magnitude is below the bound of significands is also written as its numeral: a
shorter coefficient that reads back differs from the numeral by zeros at the end only,
and the numeral itself always reads back.
-/

namespace InfixCalc.Double

/-! ## Reading numerals -/

/-- A power of ten above one is multiplied into the coefficient. -/
theorem ofScientific_eq_ofRatio
    (negative : Bool)
    (coefficient : Nat)
    {power : Nat}
    (small : power ≤ 310) :
    ofScientific negative coefficient power = ofRatio negative (coefficient * 10 ^ power) 1 := by
  rcases Nat.eq_zero_or_pos coefficient with rfl | positive
  · simp [ofScientific, ofRatio]
  · have notGreat : ¬ (power : ℤ) > 310 := by omega
    have notSmall : ¬ (power : ℤ) + coefficient.log2 < -330 := by omega
    have down : (-(power : ℤ)).toNat = 0 := by omega
    rw [ofScientific, if_neg positive.ne', if_neg notGreat, if_neg notSmall, Int.toNat_natCast,
      down]
    rfl

theorem splitSign_of_digits
    {digits : Text}
    (digit : ∀ unit ∈ digits, unit.isDigit) :
    Scientific.splitSign digits = (none, digits) := by
  have unsigned : ∀ unit ∈ digits.head?, Scientific.Unsigned unit :=
    fun unit first => Scientific.unsigned_of_isDigit (digit unit (List.mem_of_mem_head? first))
  exact Scientific.splitSign_append unsigned none

theorem ofText?_signed
    {digits : Text}
    (digit : ∀ unit ∈ digits, unit.isDigit)
    (sign : Option Bool) :
    Scientific.ofText? (Scientific.signText sign ++ digits)
      = some ⟨sign, digits, none, none⟩ := by
  have writes : Scientific.Writes ⟨sign, digits, none, none⟩ _ := .parts digit nofun .absent
  rw [Scientific.fractionText, List.append_nil, List.append_nil] at writes
  exact Scientific.ofText?_eq_some_iff.mpr writes

theorem ofText?_of_digits
    {digits : Text}
    (digit : ∀ unit ∈ digits, unit.isDigit) :
    Scientific.ofText? digits = some ⟨none, digits, none, none⟩ :=
  ofText?_signed digit none

theorem ofParts_signed
    (sign : Option Bool)
    (number : Nat) :
    ofParts ⟨sign, Text.numeral number, none, none⟩
      = ofRatio (sign == some true) number 1 := by
  have value : Scientific.coefficient ⟨sign, Text.numeral number, none, none⟩ = number := by
    simp [Scientific.coefficient, Scientific.fractionDigits, Text.numeralValue_numeral]
  have read := ofScientific_eq_ofRatio (sign == some true) number (Nat.zero_le 310)
  rw [pow_zero, mul_one] at read
  rw [ofParts, value]
  exact read

theorem ofParts_numeral (number : Nat) :
    ofParts ⟨none, Text.numeral number, none, none⟩ = ofNat number :=
  ofParts_signed none number

/-- Just a single digit may be a zero in front. -/
theorem length_numeral_of_head?_zero
    {number : Nat}
    (zero : (Text.numeral number).head? = some 0x30) :
    (Text.numeral number).length = 1 := by
  rcases Nat.eq_zero_or_pos number with rfl | positive
  · rfl
  · exact absurd zero (Text.head?_numeral_ne_zero positive)

/-- The numeral of an integer: a hyphen if it is negative, and the numeral of its magnitude. -/
def integerText (number : ℤ) : Text :=
  Scientific.signText (if number < 0 then some true else none) ++ Text.numeral number.natAbs

theorem ofJsonText?_integerText (number : ℤ) :
    ofJsonText? (integerText number) = some (ofInt number) := by
  have strict (sign : Option Bool) (noPlus : sign ≠ some false) :
      isJsonNumber ⟨sign, Text.numeral number.natAbs, none, none⟩ := by
    by_cases zero : (Text.numeral number.natAbs).head? = some 0x30
    · simp [isJsonNumber, noPlus, Text.numeral_ne_nil, length_numeral_of_head?_zero zero]
    · simp [isJsonNumber, noPlus, Text.numeral_ne_nil, zero]
  rw [ofJsonText?, integerText, ofText?_signed fun _ => Text.isDigit_of_mem_numeral, ofInt]
  by_cases negative : number < 0
  · simp [negative, strict, ofParts_signed]
  · simp [negative, strict, ofParts_signed]

theorem trim_of_digits
    {digits : Text}
    (digit : ∀ unit ∈ digits, unit.isDigit) :
    Text.trim digits = digits := by
  have kept (run : Text) (runDigit : ∀ unit ∈ run, unit.isDigit) :
      run.dropWhile CodeUnit.isBlank = run := by
    cases run with
    | nil => rfl
    | cons unit rest =>
      simp [CodeUnit.isBlank_of_isDigit (runDigit unit List.mem_cons_self)]
  have reversed : ∀ unit ∈ digits.reverse, unit.isDigit := by
    intro unit member
    exact digit unit (List.mem_reverse.mp member)
  rw [Text.trim, kept digits digit, kept digits.reverse reversed, List.reverse_reverse]

/-- A numeral has no prefix for a base. -/
theorem ofRadixText?_numeral (number : Nat) : ofRadixText? (Text.numeral number) = none := by
  unfold ofRadixText?
  split
  · rename_i zero letter digits written
    split
    · rename_i isZero
      have single : (Text.numeral number).length = 1 := by
        apply length_numeral_of_head?_zero
        rw [written, List.head?_cons, eq_of_beq isZero]
      rw [written] at single
      cases single
    · rfl
  · rfl

theorem ofInfinityText?_of_digits
    {digits : Text}
    (digit : ∀ unit ∈ digits, unit.isDigit) :
    ofInfinityText? digits = none := by
  have word : digits ≠ text "Infinity" := by
    rintro rfl
    exact absurd (digit 0x49 List.mem_cons_self) (by decide)
  simp [ofInfinityText?, splitSign_of_digits digit, word]

/-- A numeral counts as its number. -/
theorem ofText_numeral (number : Nat) : ofText (Text.numeral number) = ofNat number := by
  have digit : ∀ unit ∈ Text.numeral number, unit.isDigit :=
    fun _ => Text.isDigit_of_mem_numeral
  have hasDigits : Scientific.hasDigits ⟨none, Text.numeral number, none, none⟩ := by
    simp [Scientific.hasDigits, Text.numeral_ne_nil]
  have nonempty : (Text.numeral number).isEmpty = false := by
    simpa using Text.numeral_ne_nil number
  rw [ofText, trim_of_digits digit, nonempty]
  simp only [Bool.false_eq_true, if_false, ofRadixText?_numeral, ofInfinityText?_of_digits digit,
    ofText?_of_digits digit, hasDigits, if_true, ofParts_numeral]

/-! ## Writing natural numbers -/

/-- A natural number that is a double is a ratio with the denominator of the double. -/
theorem ofNat_eq_ratio
    {number : Nat}
    (small : number < significandBound) :
    ∃ significand exponent,
      ofNat number = finite false significand exponent ∧
        numerator significand exponent = number * denominator exponent := by
  rcases Nat.eq_zero_or_pos number with rfl | positive
  · exact ⟨0, leastExponent, rfl, by simp [numerator]⟩
  · have value := toRat?_ofNat small
    rw [ofNat_eq positive small] at value ⊢
    refine ⟨_, _, rfl, magnitude_eq_iff.mp ?_⟩
    simpa [toRat?] using value

/-- An integer that is a double has the sign in front of the double of its magnitude. -/
theorem ofInt_eq_ratio
    {number : ℤ}
    (small : number.natAbs < significandBound) :
    ∃ significand exponent,
      ofInt number = finite (decide (number < 0)) significand exponent ∧
        ofNat number.natAbs = finite false significand exponent ∧
        numerator significand exponent = number.natAbs * denominator exponent := by
  rcases ofNat_eq_ratio small with ⟨significand, exponent, equal, ratio⟩
  exact ⟨significand, exponent, ofRatio_eq_finite_iff.mpr equal, equal, ratio⟩

theorem isFinite_ofInt
    {number : ℤ}
    (small : number.natAbs < significandBound) :
    (ofInt number).isFinite := by
  rcases ofInt_eq_ratio small with ⟨significand, exponent, signed, _⟩
  rw [signed]
  rfl

/-- A natural number has as many digits before its point as its numeral has. -/
theorem pointPlace_mul
    {number bottom : Nat}
    (positive : 0 < number)
    (divisor : 0 < bottom) :
    pointPlace (number * bottom) bottom = Text.digitCount number := by
  generalize top : Text.digitCount (number * bottom) = topCount
  generalize under : Text.digitCount bottom = bottomCount
  have topPositive := Text.digitCount_pos (Nat.mul_pos positive divisor)
  have bottomPositive := Text.digitCount_pos divisor
  have topUpper := Text.digitCount_le_iff.mp top.le
  have bottomUpper := Text.digitCount_le_iff.mp under.le
  obtain ⟨topPlaces, rfl⟩ : ∃ places, topCount = places + 1 := ⟨topCount - 1, by omega⟩
  obtain ⟨bottomPlaces, rfl⟩ : ∃ places, bottomCount = places + 1 := ⟨bottomCount - 1, by omega⟩
  have topLower := Text.lt_digitCount_iff.mp (Nat.lt_of_succ_le top.ge)
  have bottomLower := Text.lt_digitCount_iff.mp (Nat.lt_of_succ_le under.ge)
  have order : bottomPlaces ≤ topPlaces := by
    have below : 10 ^ bottomPlaces < 10 ^ (topPlaces + 1) := by
      calc
        10 ^ bottomPlaces
          ≤ bottom := bottomLower
        _ ≤ number * bottom := Nat.le_mul_of_pos_left bottom positive
        _ < 10 ^ (topPlaces + 1) := topUpper
    exact Nat.le_of_lt_succ ((Nat.pow_lt_pow_iff_right (by decide)).mp below)
  obtain ⟨places, rfl⟩ := Nat.exists_eq_add_of_le order
  -- The quotient has as many digits as the difference of both counts, or one more.
  have atMost : Text.digitCount number ≤ places + 1 := by
    rw [Text.digitCount_le_iff]
    apply Nat.lt_of_mul_lt_mul_right (a := 10 ^ bottomPlaces)
    calc
      number * 10 ^ bottomPlaces
        ≤ number * bottom := Nat.mul_le_mul_left number bottomLower
      _ < 10 ^ (bottomPlaces + places + 1) := topUpper
      _ = 10 ^ (places + 1) * 10 ^ bottomPlaces := by ring
  have atLeast : places ≤ Text.digitCount number := by
    rcases places with _ | places
    · exact Nat.zero_le _
    · rw [Nat.succ_le_iff, Text.lt_digitCount_iff]
      apply Nat.le_of_lt
      apply Nat.lt_of_mul_lt_mul_right (a := 10 ^ (bottomPlaces + 1))
      calc
        10 ^ places * 10 ^ (bottomPlaces + 1)
          = 10 ^ (bottomPlaces + (places + 1)) := by ring
        _ ≤ number * bottom := topLower
        _ < number * 10 ^ (bottomPlaces + 1) := Nat.mul_lt_mul_of_pos_left bottomUpper positive
  have difference : ((bottomPlaces + places + 1 : ℕ) : ℤ) - (bottomPlaces + 1 : ℕ) = places := by
    omega
  have up : (-(places : ℤ)).toNat = 0 := by omega
  have test : bottom * 10 ^ places ≤ number * bottom ↔ 10 ^ places ≤ number := by
    rw [Nat.mul_comm number bottom]
    exact Nat.mul_le_mul_left_iff divisor
  unfold pointPlace
  simp only [top, under, difference, Int.toNat_natCast, up, Nat.pow_eq, pow_zero, mul_one, test,
    ← Text.lt_digitCount_iff]
  split
  · omega
  · omega

/-- A coefficient that is found is a neighbour of the exact value and reads back. -/
theorem coefficientOf?_some
    {significand count coefficient : Nat}
    {exponent place : ℤ}
    (found : coefficientOf? significand exponent count = some (coefficient, place)) :
    place = pointPlace (numerator significand exponent) (denominator exponent) - count ∧
      coefficient ≤ numerator significand exponent * 10 ^ (-place).toNat
        / (denominator exponent * 10 ^ place.toNat) + 1 ∧
      ofScientific false coefficient place = finite false significand exponent := by
  unfold coefficientOf? at found
  dsimp only at found
  split_ifs at found with order nearer farther nearer farther
  · cases found
    exact ⟨rfl, Nat.le_succ _, eq_of_beq nearer⟩
  · cases found
    exact ⟨rfl, Nat.le_refl _, eq_of_beq farther⟩
  · cases found
    exact ⟨rfl, Nat.le_refl _, eq_of_beq nearer⟩
  · cases found
    exact ⟨rfl, Nat.le_succ _, eq_of_beq farther⟩

section

variable
    {number significand : Nat}
    {exponent : ℤ}
    (positive : 0 < number)
    (equal : ofNat number = finite false significand exponent)
    (ratio : numerator significand exponent = number * denominator exponent)

include positive equal ratio

/-- Up to the length of the numeral, a coefficient that reads back is the number itself. -/
theorem coefficientOf?_sound
    {count coefficient : Nat}
    {place : ℤ}
    (small : number < significandBound)
    (counted : 0 < count)
    (short : count ≤ Text.digitCount number)
    (found : coefficientOf? significand exponent count = some (coefficient, place)) :
    ∃ power : Nat, place = power ∧ coefficient * 10 ^ power = number := by
  rcases coefficientOf?_some found with ⟨isPlace, near, back⟩
  obtain ⟨power, places⟩ := Nat.exists_eq_add_of_le short
  rw [ratio, pointPlace_mul positive (denominator_pos exponent)] at isPlace
  obtain rfl : place = power := by omega
  have reaches : 10 ^ power ≤ number := Text.lt_digitCount_iff.mp (by omega)
  have limited : power < 16 := by
    rw [← Nat.pow_lt_pow_iff_right (a := 10) (by decide)]
    calc
      10 ^ power
        ≤ number := reaches
      _ < significandBound := small
      _ < 10 ^ 16 := by decide
  have read : ofNat (coefficient * 10 ^ power) = finite false significand exponent :=
    (ofScientific_eq_ofRatio false coefficient (by omega)).symm.trans back
  -- A neighbour that is too large for its double to be exact has another exponent.
  have bounded : coefficient * 10 ^ power < significandBound := by
    by_contra large
    have above := exponent_pos_of_large (Nat.not_lt.mp large) read
    have bits : number.log2 < 53 := (Nat.log2_lt positive.ne').mpr small
    rw [ofNat_eq positive small] at equal
    cases equal
    omega
  have values := congrArg toRat? read
  rw [toRat?_ofNat bounded, ← equal, toRat?_ofNat small] at values
  exact ⟨power, rfl, by exact_mod_cast Option.some.inj values⟩

/-- The numeral itself reads back. -/
theorem coefficientOf?_digitCount :
    coefficientOf? significand exponent (Text.digitCount number) = some (number, 0) := by
  have divisor := denominator_pos exponent
  have point : pointPlace (number * denominator exponent) (denominator exponent)
      - Text.digitCount number = 0 := by
    rw [pointPlace_mul positive divisor]
    omega
  have back := ofScientific_eq_ofRatio false number (Nat.zero_le 310)
  rw [pow_zero, mul_one, ← ofNat, equal] at back
  have hit : (ofScientific false number 0 == finite false significand exponent) = true :=
    beq_iff_eq.mpr back
  unfold coefficientOf?
  simp [ratio, point, divisor, hit]

theorem shortest_exact
    (small : number < significandBound) :
    ∃ power : Nat,
      (shortest significand exponent).2 = power ∧
        (shortest significand exponent).1 * 10 ^ power = number := by
  have last := coefficientOf?_digitCount positive equal ratio
  have digits := Text.digitCount_pos positive
  have few : Text.digitCount number ≤ 16 := by
    rw [Text.digitCount_le_iff]
    have bound : significandBound < 10 ^ 16 := by decide
    omega
  have lastIn : Text.digitCount number - 1 ∈ List.range 17 := List.mem_range.mpr (by omega)
  have lastHit : coefficientOf? significand exponent (Text.digitCount number - 1 + 1)
      = some (number, 0) := by
    rw [Nat.sub_add_cancel digits]
    exact last
  cases search : (List.range 17).findSome? fun count =>
      coefficientOf? significand exponent (count + 1) with
  | none =>
    have miss := List.findSome?_eq_none_iff.mp search _ lastIn
    rw [lastHit] at miss
    cases miss
  | some found =>
    rcases List.findSome?_eq_some_iff.mp search with ⟨before, count, after, split, hit, misses⟩
    -- The hit comes no later than the numeral.
    have early : count ≤ Text.digitCount number - 1 := by
      have sorted := List.pairwise_lt_range (n := 17)
      rw [split] at sorted lastIn
      rcases List.mem_append.mp lastIn with earlier | here
      · have miss := misses _ earlier
        rw [lastHit] at miss
        cases miss
      · rcases List.mem_cons.mp here with same | later
        · exact same.ge
        · have order := (List.pairwise_append.mp sorted).2.1
          exact (List.rel_of_pairwise_cons order later).le
    rw [shortest, search, Option.getD_some]
    exact coefficientOf?_sound positive equal ratio small (Nat.succ_pos count) (by omega) hit

end

/-- The zeros that are taken from the end of a numeral are counted. -/
theorem significantDigits_append_zeros (coefficient : Nat) :
    (significantDigits coefficient).1
        ++ List.replicate (significantDigits coefficient).2 0x30
      = Text.numeral coefficient :=
  Text.append_trailing_zeros (Text.numeral coefficient)

/-- A whole number of few digits is written as its numeral. -/
theorem magnitudeText_whole
    {coefficient power number : Nat}
    (positive : 0 < number)
    (short : Text.digitCount number ≤ 21)
    (equal : coefficient * 10 ^ power = number) :
    magnitudeText coefficient power = Text.numeral number := by
  have nonzero : 0 < coefficient := Nat.pos_of_mul_pos_right (equal ▸ positive)
  have split := significantDigits_append_zeros coefficient
  have numeral : Text.numeral number
      = (significantDigits coefficient).1
        ++ List.replicate ((significantDigits coefficient).2 + power) 0x30 := by
    rw [← equal, Text.numeral_mul_pow nonzero, ← split, List.append_assoc,
      List.replicate_append_replicate]
  have long := Text.length_numeral positive
  rw [numeral, List.length_append, List.length_replicate] at long
  rw [numeral, magnitudeText]
  generalize significantDigits coefficient = parts at long ⊢
  have whole : (parts.1.length : ℤ) ≤ power + parts.2 + parts.1.length := by omega
  have fits : (power : ℤ) + parts.2 + parts.1.length ≤ 21 := by omega
  have zeros : ((power : ℤ) + parts.2 + parts.1.length - parts.1.length).toNat
      = parts.2 + power := by omega
  simp only [if_pos (And.intro whole fits), zeros]

/-- An integer that is small enough is written as its numeral. -/
theorem toText_ofInt
    {number : ℤ}
    (small : number.natAbs < significandBound) :
    (ofInt number).toText = integerText number := by
  rcases Nat.eq_zero_or_pos number.natAbs with none | positive
  · rw [Int.natAbs_eq_zero.mp none]
    simp [ofInt, ofRatio, zero, toText, integerText, Scientific.signText, Text.numeral]
  · rcases ofInt_eq_ratio small with ⟨significand, exponent, signed, equal, ratio⟩
    rcases shortest_exact positive equal ratio small with ⟨power, place, exact⟩
    have nonzero : significand ≠ 0 := by
      rintro rfl
      have none : number.natAbs * denominator exponent = 0 := by
        rw [← ratio, numerator, Nat.zero_mul]
      exact (Nat.mul_pos positive (denominator_pos exponent)).ne' none
    have few : Text.digitCount number.natAbs ≤ 21 := by
      rw [Text.digitCount_le_iff]
      have bound : significandBound < 10 ^ 21 := by decide
      omega
    rw [signed, toText, if_neg nonzero]
    dsimp only
    rw [place, magnitudeText_whole positive few exact, integerText]
    by_cases negative : number < 0
    · rw [decide_eq_true negative, if_pos rfl, if_pos negative]
      rfl
    · rw [decide_eq_false negative, if_neg Bool.false_ne_true, if_neg negative]
      rfl

end InfixCalc.Double
