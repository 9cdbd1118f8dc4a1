import InfixCalc.Proofs.Text.CodePoint
import InfixCalc.Text.Utf8

/-!
# Encodings of code points

A code point that is no surrogate is encoded by one to four bytes.  The first byte says how
many follow it and between which bounds the second one lies.  So the state in which a first
byte leaves the decoder describes exactly the bytes that complete an encoding, and the code
point that they complete.
-/

namespace InfixCalc.Text.Utf8

theorem toNat_toUInt8
    {number : Nat}
    (small : number < 0x100) :
    number.toUInt8.toNat = number :=
  Nat.mod_eq_of_lt small

theorem toUInt8_of_eq
    (byte : UInt8)
    {number : Nat}
    (same : number = byte.toNat) :
    number.toUInt8 = byte := by
  rw [same]
  exact UInt8.ofNat_toNat

/-! ## Encodings -/

/-- A code point that has an encoding: no surrogate, and not beyond the last one. -/
def IsScalar (point : Nat) : Prop :=
  point < 0xD800 ∨ (0xDFFF < point ∧ point < 0x110000)

section

variable {point : Nat}

theorem encodePoint_one (small : point < 0x80) : encodePoint point = [point.toUInt8] :=
  if_pos small

theorem encodePoint_two
    (large : 0x80 ≤ point)
    (small : point < 0x800) :
    encodePoint point = [(0xC0 + point / 0x40).toUInt8, (0x80 + point % 0x40).toUInt8] := by
  rw [encodePoint, if_neg (by omega), if_pos small]

theorem encodePoint_three
    (scalar : IsScalar point)
    (large : 0x800 ≤ point)
    (small : point < 0x10000) :
    encodePoint point
      = [(0xE0 + point / 0x1000).toUInt8, (0x80 + point / 0x40 % 0x40).toUInt8,
          (0x80 + point % 0x40).toUInt8] := by
  have noSurrogate : ¬ (0xD800 ≤ point ∧ point ≤ 0xDFFF) := by
    rcases scalar with below | ⟨above, _⟩ <;> omega
  rw [encodePoint, if_neg (by omega), if_neg (by omega), if_neg noSurrogate, if_pos small]

theorem encodePoint_four (large : 0x10000 ≤ point) :
    encodePoint point
      = [(0xF0 + point / 0x40000).toUInt8, (0x80 + point / 0x1000 % 0x40).toUInt8,
          (0x80 + point / 0x40 % 0x40).toUInt8, (0x80 + point % 0x40).toUInt8] := by
  rw [encodePoint, if_neg (by omega), if_neg (by omega), if_neg (by omega), if_neg (by omega)]

/-- The first byte of an encoding tells how many bytes follow it. -/
theorem encodePoint_cons_cases
    (scalar : IsScalar point)
    {byte : UInt8}
    {more : List UInt8}
    (encoding : encodePoint point = byte :: more) :
    (point < 0x80 ∧ byte.toNat = point ∧ more = []) ∨
      (0x80 ≤ point ∧ point < 0x800 ∧ byte.toNat = 0xC0 + point / 0x40 ∧
        more = [(0x80 + point % 0x40).toUInt8]) ∨
      (0x800 ≤ point ∧ point < 0x10000 ∧ byte.toNat = 0xE0 + point / 0x1000 ∧
        more = [(0x80 + point / 0x40 % 0x40).toUInt8, (0x80 + point % 0x40).toUInt8]) ∨
      (0x10000 ≤ point ∧ point < 0x110000 ∧ byte.toNat = 0xF0 + point / 0x40000 ∧
        more = [(0x80 + point / 0x1000 % 0x40).toUInt8, (0x80 + point / 0x40 % 0x40).toUInt8,
          (0x80 + point % 0x40).toUInt8]) := by
  have last : point < 0x110000 := by
    rcases scalar with below | ⟨_, below⟩ <;> omega
  rcases Nat.lt_or_ge point 0x80 with one | notOne
  · rw [encodePoint_one one] at encoding
    cases encoding
    exact .inl ⟨one, toNat_toUInt8 (by omega), rfl⟩
  rcases Nat.lt_or_ge point 0x800 with two | notTwo
  · rw [encodePoint_two notOne two] at encoding
    cases encoding
    exact .inr (.inl ⟨notOne, two, toNat_toUInt8 (by omega), rfl⟩)
  rcases Nat.lt_or_ge point 0x10000 with three | notThree
  · rw [encodePoint_three scalar notTwo three] at encoding
    cases encoding
    exact .inr (.inr (.inl ⟨notTwo, three, toNat_toUInt8 (by omega), rfl⟩))
  · rw [encodePoint_four notThree] at encoding
    cases encoding
    exact .inr (.inr (.inr ⟨notThree, last, toNat_toUInt8 (by omega), rfl⟩))

end

/-! ## What completes a state -/

/-- The bytes complete the character inside which the decoder stands, and this is its code point. -/
inductive Completes : State → List UInt8 → Nat → Prop where
  | last
      {low high byte : UInt8}
      {value point : Nat} :
      low.toNat ≤ byte.toNat ∧ byte.toNat ≤ high.toNat →
      point = value * 0x40 + (byte.toNat - 0x80) →
      Completes (.inside 0 low high value) [byte] point
  | more
      {owed value point : Nat}
      {low high byte : UInt8}
      {later : List UInt8} :
      low.toNat ≤ byte.toNat ∧ byte.toNat ≤ high.toNat →
      Completes (.inside owed 0x80 0xBF (value * 0x40 + (byte.toNat - 0x80))) later point →
      Completes (.inside (owed + 1) low high value) (byte :: later) point

/-- What completes a state is settled by the bytes that follow. -/
theorem Completes.unique
    {state : State}
    {bytes others rest otherRest : List UInt8}
    {point otherPoint : Nat}
    (completes : Completes state bytes point)
    (otherCompletes : Completes state others otherPoint)
    (same : bytes ++ rest = others ++ otherRest) :
    bytes = others ∧ point = otherPoint := by
  induction completes generalizing others with
  | last _ whole =>
    cases otherCompletes with
    | last _ otherWhole =>
      cases same
      exact ⟨rfl, whole.trans otherWhole.symm⟩
  | more _ _ inner =>
    cases otherCompletes with
    | more _ later =>
      rcases List.cons_eq_cons.mp same with ⟨rfl, sameLater⟩
      rcases inner later sameLater with ⟨rfl, rfl⟩
      exact ⟨rfl, rfl⟩

/--
After the bytes `seen` the decoder is inside a character: what completes the bytes to an
encoding is what completes the state, and something does.
-/
structure Inside (state : State) (seen : List UInt8) : Prop where
  nonempty : seen ≠ []
  completes_iff :
    ∀ {more : List UInt8} {point : Nat},
      IsScalar point ∧ encodePoint point = seen ++ more ↔ Completes state more point
  completable : ∃ more point, Completes state more point

theorem toNat_firstTail : (0x80 : UInt8).toNat = 0x80 := rfl

theorem toNat_lastTail : (0xBF : UInt8).toNat = 0xBF := rfl

theorem inside_two
    {byte : UInt8}
    {value : Nat}
    (lead : byte.toNat = 0xC0 + value)
    (range : 2 ≤ value ∧ value < 0x20) :
    Inside (.inside 0 0x80 0xBF value) [byte] where
  nonempty := List.cons_ne_nil _ _
  completes_iff := by
    intro more point
    constructor
    · rintro ⟨scalar, encoding⟩
      rcases encodePoint_cons_cases scalar encoding with
        ⟨_, first, _⟩ | ⟨_, _, first, rfl⟩ | ⟨_, _, first, _⟩ | ⟨_, _, first, _⟩
      · omega
      · have second := @toNat_toUInt8 (0x80 + point % 0x40) (by omega)
        apply Completes.last
        · rw [toNat_firstTail, toNat_lastTail]
          omega
        · omega
      · omega
      · omega
    · intro completes
      cases completes with
      | @last _ _ second _ _ bounds whole =>
        rw [toNat_firstTail, toNat_lastTail] at bounds
        refine ⟨.inl (by omega), ?_⟩
        rw [encodePoint_two (by omega) (by omega), toUInt8_of_eq byte, toUInt8_of_eq second]
        · rfl
        · omega
        · omega
  completable := ⟨[0x80], _, .last (by decide) rfl⟩

theorem inside_three
    {byte low high : UInt8}
    {value : Nat}
    (lead : byte.toNat = 0xE0 + value)
    (range : value < 0x10)
    (lowest : value = 0 ∧ low.toNat = 0xA0 ∨ value ≠ 0 ∧ low.toNat = 0x80)
    (highest : value = 0xD ∧ high.toNat = 0x9F ∨ value ≠ 0xD ∧ high.toNat = 0xBF) :
    Inside (.inside 1 low high value) [byte] where
  nonempty := List.cons_ne_nil _ _
  completes_iff := by
    intro more point
    constructor
    · rintro ⟨scalar, encoding⟩
      rcases encodePoint_cons_cases scalar encoding with
        ⟨_, first, _⟩ | ⟨_, _, first, _⟩ | ⟨_, _, first, rfl⟩ | ⟨_, _, first, _⟩
      · omega
      · omega
      · have second := @toNat_toUInt8 (0x80 + point / 0x40 % 0x40) (by omega)
        have third := @toNat_toUInt8 (0x80 + point % 0x40) (by omega)
        apply Completes.more
        · unfold IsScalar at scalar
          omega
        · apply Completes.last
          · rw [toNat_firstTail, toNat_lastTail]
            omega
          · omega
      · omega
    · intro completes
      cases completes with
      | @more _ _ _ _ _ second _ bounds later =>
        cases later with
        | @last _ _ third _ _ tail whole =>
          rw [toNat_firstTail, toNat_lastTail] at tail
          have scalar : IsScalar point := by
            unfold IsScalar
            omega
          refine ⟨scalar, ?_⟩
          rw [encodePoint_three scalar (by omega) (by omega), toUInt8_of_eq byte,
            toUInt8_of_eq second, toUInt8_of_eq third]
          · rfl
          · omega
          · omega
          · omega
  completable := by
    have bounds : low.toNat ≤ high.toNat := by omega
    exact ⟨[low, 0x80], _, .more ⟨Nat.le_refl _, bounds⟩ (.last (by decide) rfl)⟩

theorem inside_four
    {byte low high : UInt8}
    {value : Nat}
    (lead : byte.toNat = 0xF0 + value)
    (range : value ≤ 4)
    (lowest : value = 0 ∧ low.toNat = 0x90 ∨ value ≠ 0 ∧ low.toNat = 0x80)
    (highest : value = 4 ∧ high.toNat = 0x8F ∨ value ≠ 4 ∧ high.toNat = 0xBF) :
    Inside (.inside 2 low high value) [byte] where
  nonempty := List.cons_ne_nil _ _
  completes_iff := by
    intro more point
    constructor
    · rintro ⟨scalar, encoding⟩
      rcases encodePoint_cons_cases scalar encoding with
        ⟨_, first, _⟩ | ⟨_, _, first, _⟩ | ⟨_, _, first, _⟩ | ⟨_, _, first, rfl⟩
      · omega
      · omega
      · omega
      · have second := @toNat_toUInt8 (0x80 + point / 0x1000 % 0x40) (by omega)
        have third := @toNat_toUInt8 (0x80 + point / 0x40 % 0x40) (by omega)
        have fourth := @toNat_toUInt8 (0x80 + point % 0x40) (by omega)
        apply Completes.more
        · omega
        · apply Completes.more
          · rw [toNat_firstTail, toNat_lastTail]
            omega
          · apply Completes.last
            · rw [toNat_firstTail, toNat_lastTail]
              omega
            · omega
    · intro completes
      cases completes with
      | @more _ _ _ _ _ second _ bounds later =>
        cases later with
        | @more _ _ _ _ _ third _ tail last =>
          cases last with
          | @last _ _ fourth _ _ lastTail whole =>
            rw [toNat_firstTail, toNat_lastTail] at tail lastTail
            refine ⟨.inr (by omega), ?_⟩
            rw [encodePoint_four (by omega), toUInt8_of_eq byte, toUInt8_of_eq second,
              toUInt8_of_eq third, toUInt8_of_eq fourth]
            · rfl
            · omega
            · omega
            · omega
            · omega
  completable := by
    have bounds : low.toNat ≤ high.toNat := by omega
    exact ⟨[low, 0x80, 0x80], _,
      .more ⟨Nat.le_refl _, bounds⟩ (.more (by decide) (.last (by decide) rfl))⟩

/-! ## The states that the decoder reaches -/

/-- Some bytes with which an encoding begins. -/
def Begins (bytes : List UInt8) : Prop :=
  ∃ point, IsScalar point ∧ bytes <+: encodePoint point

theorem not_begins_of_lead
    {byte : UInt8}
    (noLead : 0x80 ≤ byte.toNat ∧ byte.toNat < 0xC2 ∨ 0xF4 < byte.toNat) :
    ¬ Begins [byte] := by
  rintro ⟨point, scalar, more, encoding⟩
  rcases encodePoint_cons_cases scalar encoding.symm with
    ⟨_, first, _⟩ | ⟨_, _, first, _⟩ | ⟨_, _, first, _⟩ | ⟨_, _, first, _⟩
  all_goals omega

/-- A byte is a character, or the first byte of longer encodings, or begins no encoding. -/
theorem begin_cases (byte : UInt8) :
    (byte.toNat < 0x80 ∧ begin byte = ([byte.toUInt16], .between)) ∨
      (∃ state, begin byte = ([], state) ∧ Inside state [byte]) ∨
        (begin byte = ([replacement], .between) ∧ ¬ Begins [byte]) := by
  unfold begin
  simp only [UInt8.le_iff_toNat_le, beq_iff_eq, ← UInt8.toNat_inj, Bool.and_eq_true,
    decide_eq_true_eq, UInt8.reduceToNat]
  split
  · exact .inl ⟨by omega, rfl⟩
  split
  · exact .inr (.inl ⟨_, rfl, inside_two (by omega) (by omega)⟩)
  split
  · exact .inr (.inl ⟨_, rfl, inside_three (by omega) (by omega) (.inl ⟨rfl, rfl⟩)
      (.inr ⟨by decide, rfl⟩)⟩)
  split
  · exact .inr (.inl ⟨_, rfl, inside_three (by omega) (by omega) (.inr ⟨by decide, rfl⟩)
      (.inl ⟨rfl, rfl⟩)⟩)
  split
  · exact .inr (.inl ⟨_, rfl, inside_three (by omega) (by omega) (.inr ⟨by omega, rfl⟩)
      (.inr ⟨by omega, rfl⟩)⟩)
  split
  · exact .inr (.inl ⟨_, rfl, inside_four (by omega) (by omega) (.inl ⟨rfl, rfl⟩)
      (.inr ⟨by decide, rfl⟩)⟩)
  split
  · exact .inr (.inl ⟨_, rfl, inside_four (by omega) (by omega) (.inr ⟨by omega, rfl⟩)
      (.inr ⟨by omega, rfl⟩)⟩)
  split
  · exact .inr (.inl ⟨_, rfl, inside_four (by omega) (by omega) (.inr ⟨by decide, rfl⟩)
      (.inl ⟨rfl, rfl⟩)⟩)
  · exact .inr (.inr ⟨rfl, not_begins_of_lead (by omega)⟩)

theorem completable_tail (owed value : Nat) :
    ∃ more point, Completes (.inside owed 0x80 0xBF value) more point := by
  induction owed generalizing value with
  | zero => exact ⟨[0x80], _, .last (by decide) rfl⟩
  | succ owed inner =>
    rcases inner (value * 0x40 + ((0x80 : UInt8).toNat - 0x80)) with ⟨more, point, completes⟩
    exact ⟨0x80 :: more, point, .more (by decide) completes⟩

namespace Inside

variable
    {seen : List UInt8}
    {owed value : Nat}
    {low high byte : UInt8}

theorem begins
    {state : State}
    (inside : Inside state seen) :
    Begins seen := by
  rcases inside.completable with ⟨more, point, completes⟩
  rcases inside.completes_iff.mpr completes with ⟨scalar, encoding⟩
  exact ⟨point, scalar, more, encoding.symm⟩

theorem next
    (inside : Inside (.inside (owed + 1) low high value) seen)
    (bounds : low.toNat ≤ byte.toNat ∧ byte.toNat ≤ high.toNat) :
    Inside (.inside owed 0x80 0xBF (value * 0x40 + (byte.toNat - 0x80))) (seen ++ [byte]) where
  nonempty := List.append_ne_nil_of_right_ne_nil _ (List.cons_ne_nil _ _)
  completes_iff := by
    intro more point
    rw [List.append_assoc, List.singleton_append, inside.completes_iff]
    constructor
    · intro completes
      cases completes with
      | more _ later => exact later
    · exact .more bounds
  completable := completable_tail _ _

theorem finished
    (inside : Inside (.inside 0 low high value) seen)
    (bounds : low.toNat ≤ byte.toNat ∧ byte.toNat ≤ high.toNat) :
    IsScalar (value * 0x40 + (byte.toNat - 0x80)) ∧
      encodePoint (value * 0x40 + (byte.toNat - 0x80)) = seen ++ [byte] :=
  inside.completes_iff.mpr (.last bounds rfl)

theorem not_begins
    (inside : Inside (.inside owed low high value) seen)
    (outside : ¬ (low.toNat ≤ byte.toNat ∧ byte.toNat ≤ high.toNat)) :
    ¬ Begins (seen ++ [byte]) := by
  rintro ⟨point, scalar, more, encoding⟩
  rw [List.append_assoc, List.singleton_append] at encoding
  have completes := inside.completes_iff.mp ⟨scalar, encoding.symm⟩
  cases completes with
  | last bounds _ => exact outside bounds
  | more bounds _ => exact outside bounds

end Inside

end InfixCalc.Text.Utf8
