import InfixCalc.Proofs.Token.Written
import InfixCalc.Text.Scientific
import Mathlib.Tactic.SplitIfs

/-!
# The grammar of scientific notation

A number in scientific notation is a sign, digits, a point with digits behind it and a
mark with a power of ten behind it, one after the other; each part may be missing.  A
text is read as some parts just if the parts write it.
-/

namespace InfixCalc.Scientific

/-- A sign as it is written. -/
def signText : Option Bool → Text
  | none => []
  | some false => [0x2B]
  | some true => [0x2D]

/-- A point and the digits behind it. -/
def fractionText : Option Text → Text
  | none => []
  | some digits => 0x2E :: digits

/-- The whole number that digits behind a sign stand for. -/
def signedValue
    (sign : Option Bool)
    (digits : Text) :
    Int :=
  if sign = some true then -(Text.numeralValue digits : Int) else Text.numeralValue digits

/-- Ways to write a power of ten: nothing, or a mark and a whole number. -/
inductive WritesPower : Option Int → Text → Prop where
  | absent : WritesPower none []
  | present
      {mark : CodeUnit}
      {sign : Option Bool}
      {digits : Text} :
      mark = 0x65 ∨ mark = 0x45 →
      (∀ unit ∈ digits, unit.isDigit) →
      digits ≠ [] →
      WritesPower (some (signedValue sign digits)) (mark :: (signText sign ++ digits))

/-- The parts one after the other. -/
inductive Writes : Scientific → Text → Prop where
  | parts
      {sign : Option Bool}
      {whole : Text}
      {fraction : Option Text}
      {power : Option Int}
      {tail : Text} :
      (∀ unit ∈ whole, unit.isDigit) →
      (∀ digits ∈ fraction, ∀ unit ∈ digits, unit.isDigit) →
      WritesPower power tail →
      Writes ⟨sign, whole, fraction, power⟩
        (signText sign ++ (whole ++ (fractionText fraction ++ tail)))

/-! ## Signs -/

/-- The unit is no sign. -/
def Unsigned (unit : CodeUnit) : Prop :=
  unit ≠ 0x2B ∧ unit ≠ 0x2D

theorem unsigned_of_isDigit
    {unit : CodeUnit}
    (digit : unit.isDigit) :
    Unsigned unit := by
  constructor
  · rintro rfl
    exact absurd digit (by decide)
  · rintro rfl
    exact absurd digit (by decide)

/-- A sign that is written is split off. -/
theorem splitSign_append
    {body : Text}
    (unsigned : ∀ unit ∈ body.head?, Unsigned unit)
    (sign : Option Bool) :
    splitSign (signText sign ++ body) = (sign, body) := by
  rcases sign with _ | _ | _
  · cases body with
    | nil => rfl
    | cons unit rest =>
      rcases unsigned unit rfl with ⟨noPlus, noMinus⟩
      simp [signText, splitSign, noPlus, noMinus]
  · rfl
  · rfl

/-- What is split off is a sign that is written. -/
theorem append_splitSign (text : Text) :
    signText (splitSign text).1 ++ (splitSign text).2 = text := by
  cases text with
  | nil => rfl
  | cons unit rest =>
    rw [splitSign]
    split_ifs with plus minus
    · rw [eq_of_beq plus]
      rfl
    · rw [eq_of_beq minus]
      rfl
    · rfl

/-! ## Powers of ten -/

theorem readExponent?_eq_some_iff
    {text : Text}
    {power : Int} :
    readExponent? text = some power ↔
      ∃ sign digits,
        text = signText sign ++ digits ∧
          (∀ unit ∈ digits, unit.isDigit) ∧
          digits ≠ [] ∧
          power = signedValue sign digits := by
  constructor
  · intro read
    have whole := append_splitSign text
    rw [readExponent?] at read
    generalize splitSign text = split at read whole
    rcases split with ⟨sign, digits⟩
    dsimp only at read whole
    split_ifs at read with other minus
    all_goals
      simp only [Bool.or_eq_true, List.isEmpty_iff, Bool.not_eq_true', not_or,
        Bool.not_eq_false] at other
      cases read
      refine ⟨sign, digits, whole.symm, List.all_eq_true.mp other.2, other.1, ?_⟩
    · rw [signedValue, if_pos (eq_of_beq minus)]
    · rw [signedValue, if_neg fun same => minus (beq_iff_eq.mpr same)]
  · rintro ⟨sign, digits, rfl, digit, nonempty, rfl⟩
    have unsigned : ∀ unit ∈ digits.head?, Unsigned unit :=
      fun unit first => unsigned_of_isDigit (digit unit (List.mem_of_mem_head? first))
    have allDigits : digits.all CodeUnit.isDigit = true := List.all_eq_true.mpr digit
    rw [readExponent?, splitSign_append unsigned, signedValue]
    simp only [allDigits, List.isEmpty_eq_false_iff.mpr nonempty, Bool.not_true, Bool.or_self,
      Bool.false_eq_true, if_false, beq_iff_eq]
    split <;> rfl

/-- The power of ten that a text writes, if it writes one; nothing writes none. -/
def readPower? : Text → Option (Option Int)
  | [] => some none
  | mark :: rest =>
    if mark == 0x65 || mark == 0x45 then (readExponent? rest).map some else none

theorem readPower?_eq_some_iff
    {tail : Text}
    {power : Option Int} :
    readPower? tail = some power ↔ WritesPower power tail := by
  constructor
  · intro read
    cases tail with
    | nil =>
      cases read
      exact .absent
    | cons mark rest =>
      rw [readPower?] at read
      split_ifs at read with isMark
      rcases Option.map_eq_some_iff.mp read with ⟨exponent, exponentRead, rfl⟩
      rcases readExponent?_eq_some_iff.mp exponentRead with
        ⟨sign, digits, rfl, digit, nonempty, rfl⟩
      rw [Bool.or_eq_true, beq_iff_eq, beq_iff_eq] at isMark
      exact .present isMark digit nonempty
  · intro writes
    cases writes with
    | absent => rfl
    | @present mark sign digits isMark digit nonempty =>
      have exponentRead : readExponent? (signText sign ++ digits)
          = some (signedValue sign digits) :=
        readExponent?_eq_some_iff.mpr ⟨sign, digits, rfl, digit, nonempty, rfl⟩
      rw [readPower?, exponentRead]
      rcases isMark with rfl | rfl <;> rfl

/-- A power of ten begins with its mark. -/
theorem WritesPower.head
    {power : Option Int}
    {tail : Text}
    (writes : WritesPower power tail) :
    ∀ unit ∈ tail.head?, unit = 0x65 ∨ unit = 0x45 := by
  cases writes with
  | absent => nofun
  | present isMark _ _ =>
    rintro unit ⟨⟩
    exact isMark

/-! ## Fractions -/

/-- The digits behind a point at the start of a text, and what follows them. -/
def splitFraction : Text → Option Text × Text
  | [] => (none, [])
  | unit :: rest =>
    if unit == 0x2E then
      (some (rest.takeWhile CodeUnit.isDigit), rest.dropWhile CodeUnit.isDigit)
    else
      (none, unit :: rest)

theorem append_splitFraction (text : Text) :
    fractionText (splitFraction text).1 ++ (splitFraction text).2 = text := by
  cases text with
  | nil => rfl
  | cons unit rest =>
    rw [splitFraction]
    split_ifs with point
    · rw [eq_of_beq point, fractionText, List.cons_append, List.takeWhile_append_dropWhile]
    · rfl

theorem isDigit_splitFraction (text : Text) :
    ∀ digits ∈ (splitFraction text).1, ∀ unit ∈ digits, unit.isDigit := by
  cases text with
  | nil => rintro _ ⟨⟩
  | cons unit rest =>
    rw [splitFraction]
    split_ifs with point
    · rintro digits ⟨⟩
      exact List.all_eq_true.mp List.all_takeWhile
    · rintro _ ⟨⟩

/-- What may stand behind the digits of a number: neither a digit nor a point nor a sign. -/
structure Stops (unit : CodeUnit) : Prop where
  noDigit : unit.isDigit = false
  noPoint : unit ≠ 0x2E
  unsigned : Unsigned unit

theorem WritesPower.stops
    {power : Option Int}
    {tail : Text}
    (writes : WritesPower power tail) :
    ∀ unit ∈ tail.head?, Stops unit := by
  intro unit first
  rcases writes.head unit first with rfl | rfl
  · exact ⟨rfl, by decide, by decide, by decide⟩
  · exact ⟨rfl, by decide, by decide, by decide⟩

section

variable
    {tail : Text}
    (stops : ∀ unit ∈ tail.head?, Stops unit)

include stops

theorem splitFraction_append
    {fraction : Option Text}
    (digit : ∀ digits ∈ fraction, ∀ unit ∈ digits, unit.isDigit) :
    splitFraction (fractionText fraction ++ tail) = (fraction, tail) := by
  cases fraction with
  | none =>
    cases tail with
    | nil => rfl
    | cons unit rest => simp [fractionText, splitFraction, (stops unit rfl).noPoint]
  | some digits =>
    have noDigit : ∀ unit ∈ tail.head?, unit.isDigit = false :=
      fun unit first => (stops unit first).noDigit
    rw [fractionText, List.cons_append, splitFraction, if_pos BEq.rfl,
      Literal.takeWhile_digits (digit digits rfl) noDigit,
      Literal.dropWhile_digits (digit digits rfl) noDigit]

/-- Neither a point nor what stops a number is a digit or a sign. -/
theorem head?_fractionText_append (fraction : Option Text) :
    ∀ unit ∈ (fractionText fraction ++ tail).head?, unit.isDigit = false ∧ Unsigned unit := by
  cases fraction with
  | none => exact fun unit first => ⟨(stops unit first).noDigit, (stops unit first).unsigned⟩
  | some digits =>
    rintro unit ⟨⟩
    exact ⟨rfl, by decide, by decide⟩

end

/-! ## All parts -/

/-- The parts of a text are those of its pieces. -/
theorem ofText?_eq (text : Text) :
    ofText? text =
      (readPower? (splitFraction ((splitSign text).2.dropWhile CodeUnit.isDigit)).2).map
        fun power =>
          ⟨(splitSign text).1, (splitSign text).2.takeWhile CodeUnit.isDigit,
            (splitFraction ((splitSign text).2.dropWhile CodeUnit.isDigit)).1, power⟩ := by
  rw [ofText?]
  generalize splitSign text = split
  rcases split with ⟨sign, body⟩
  dsimp only
  generalize body.dropWhile CodeUnit.isDigit = rest
  -- With or without a point, what is left is read for a power in the same way.
  have powers (fraction : Option Text) (tail : Text) :
      (match tail with
        | [] => some ⟨sign, body.takeWhile CodeUnit.isDigit, fraction, none⟩
        | mark :: behind =>
          if mark == 0x65 || mark == 0x45 then
            (readExponent? behind).map fun power =>
              ⟨sign, body.takeWhile CodeUnit.isDigit, fraction, some power⟩
          else none) =
        (readPower? tail).map fun power =>
          (⟨sign, body.takeWhile CodeUnit.isDigit, fraction, power⟩ : Scientific) := by
    cases tail with
    | nil => rfl
    | cons mark behind =>
      rw [readPower?]
      dsimp only
      split_ifs
      · rw [Option.map_map]
        rfl
      · rfl
  cases rest with
  | nil => exact powers none []
  | cons unit behind =>
    rw [splitFraction]
    dsimp only
    split_ifs
    · exact powers _ _
    · exact powers none (unit :: behind)

/-- A text is read as the parts that write it. -/
theorem ofText?_eq_some_iff
    {text : Text}
    {parts : Scientific} :
    ofText? text = some parts ↔ Writes parts text := by
  constructor
  · intro read
    rw [ofText?_eq] at read
    rcases Option.map_eq_some_iff.mp read with ⟨power, powerRead, rfl⟩
    have digit : ∀ unit ∈ (splitSign text).2.takeWhile CodeUnit.isDigit, unit.isDigit :=
      List.all_eq_true.mp List.all_takeWhile
    have fractionDigit := isDigit_splitFraction ((splitSign text).2.dropWhile CodeUnit.isDigit)
    have writes : Writes ⟨(splitSign text).1, _, _, power⟩ _ :=
      .parts digit fractionDigit (readPower?_eq_some_iff.mp powerRead)
    rwa [append_splitFraction, List.takeWhile_append_dropWhile, append_splitSign] at writes
  · intro writes
    cases writes with
    | @parts sign whole fraction power tail digit fractionDigit powerWrites =>
      have behind := head?_fractionText_append powerWrites.stops fraction
      have stops : ∀ unit ∈ (fractionText fraction ++ tail).head?, unit.isDigit = false :=
        fun unit first => (behind unit first).1
      have unsigned :
          ∀ unit ∈ (whole ++ (fractionText fraction ++ tail)).head?, Unsigned unit := by
        cases whole with
        | nil => exact fun unit first => (behind unit first).2
        | cons first rest =>
          rintro unit ⟨⟩
          exact unsigned_of_isDigit (digit first List.mem_cons_self)
      rw [ofText?_eq, splitSign_append unsigned]
      simp only [Literal.takeWhile_digits digit stops, Literal.dropWhile_digits digit stops,
        splitFraction_append powerWrites.stops fractionDigit,
        readPower?_eq_some_iff.mpr powerWrites, Option.map_some]

end InfixCalc.Scientific
