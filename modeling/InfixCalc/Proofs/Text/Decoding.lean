import InfixCalc.Proofs.Text.Encoding
import Mathlib.Tactic.SplitIfs

/-!
# What bytes mean

Bytes are read as encodings of code points, one after the other.  Where no encoding stands,
the longest piece with which one begins becomes a single U+FFFD, or one byte if there is no
such piece.  Every list of bytes has exactly one meaning in this sense, and the decoder finds
it.  The bytes of a text without lone surrogates mean that text.
-/

namespace InfixCalc.Text

namespace Utf8

theorem Begins.of_prefix
    {piece bytes : List UInt8}
    (begins : Begins bytes)
    (isPrefix : piece <+: bytes) :
    Begins piece := by
  rcases begins with ⟨point, scalar, encoding⟩
  exact ⟨point, scalar, isPrefix.trans encoding⟩

theorem encodePoint_eq_cons (point : Nat) : ∃ byte more, encodePoint point = byte :: more := by
  unfold encodePoint
  split_ifs <;> exact ⟨_, _, rfl⟩

/-- No encoding is the beginning of another. -/
theorem encodePoint_unique
    {point other : Nat}
    {rest otherRest : List UInt8}
    (scalar : IsScalar point)
    (otherScalar : IsScalar other)
    (same : encodePoint point ++ rest = encodePoint other ++ otherRest) :
    point = other ∧ rest = otherRest := by
  rcases encodePoint_eq_cons point with ⟨byte, more, encoding⟩
  rcases encodePoint_eq_cons other with ⟨otherByte, otherMore, otherEncoding⟩
  rw [encoding, otherEncoding, List.cons_append, List.cons_append, List.cons_eq_cons] at same
  rcases same with ⟨rfl, sameMore⟩
  rcases begin_cases byte with ⟨ascii, _⟩ | ⟨state, _, inside⟩ | ⟨_, notBegins⟩
  · rcases encodePoint_cons_cases scalar encoding with
      ⟨_, first, rfl⟩ | ⟨_, _, first, _⟩ | ⟨_, _, first, _⟩ | ⟨_, _, first, _⟩
    · rcases encodePoint_cons_cases otherScalar otherEncoding with
        ⟨_, second, rfl⟩ | ⟨_, _, second, _⟩ | ⟨_, _, second, _⟩ | ⟨_, _, second, _⟩
      · exact ⟨first.symm.trans second, sameMore⟩
      all_goals omega
    all_goals omega
  · have completes := inside.completes_iff.mp ⟨scalar, encoding⟩
    have otherCompletes := inside.completes_iff.mp ⟨otherScalar, otherEncoding⟩
    rcases completes.unique otherCompletes sameMore with ⟨rfl, rfl⟩
    exact ⟨rfl, List.append_cancel_left sameMore⟩
  · exact absurd ⟨point, scalar, more, encoding.symm⟩ notBegins

/-! ## The meaning of bytes -/

/--
No encoding stands at the front of the bytes, and the piece is the longest one with which an
encoding begins, or a single byte.
-/
structure Malformed (piece rest : List UInt8) : Prop where
  unreadable : ∀ point, IsScalar point → ¬ encodePoint point <+: piece ++ rest
  nonempty : piece ≠ []
  begins : Begins piece ∨ piece.length = 1
  longest : ∀ longer, longer <+: piece ++ rest → Begins longer → longer.length ≤ piece.length

/-- The bytes mean the text. -/
inductive Decodes : List UInt8 → Text → Prop where
  | nil : Decodes [] []
  | point
      {point : Nat}
      {rest : List UInt8}
      {decoded : Text} :
      IsScalar point →
      Decodes rest decoded →
      Decodes (encodePoint point ++ rest) (ofCodePoint point ++ decoded)
  | malformed
      {piece rest : List UInt8}
      {decoded : Text} :
      Malformed piece rest →
      Decodes rest decoded →
      Decodes (piece ++ rest) (replacement :: decoded)

namespace Malformed

variable {piece rest other otherRest : List UInt8}

theorem length_le
    (malformed : Malformed piece rest)
    (otherMalformed : Malformed other otherRest)
    (same : piece ++ rest = other ++ otherRest) :
    piece.length ≤ other.length := by
  rcases malformed.begins with begins | single
  · exact otherMalformed.longest piece ⟨rest, same⟩ begins
  · rw [single]
    exact List.length_pos_iff.mpr otherMalformed.nonempty

theorem unique
    (malformed : Malformed piece rest)
    (otherMalformed : Malformed other otherRest)
    (same : piece ++ rest = other ++ otherRest) :
    piece = other ∧ rest = otherRest :=
  List.append_inj same <|
    Nat.le_antisymm (malformed.length_le otherMalformed same)
      (otherMalformed.length_le malformed same.symm)

end Malformed

/-- Bytes mean at most one text. -/
theorem Decodes.unique
    {bytes others : List UInt8}
    {decoded otherDecoded : Text}
    (decodes : Decodes bytes decoded)
    (otherDecodes : Decodes others otherDecoded)
    (same : bytes = others) :
    decoded = otherDecoded := by
  induction decodes generalizing others otherDecoded with
  | nil =>
    cases otherDecodes with
    | nil => rfl
    | @point point =>
      rcases encodePoint_eq_cons point with ⟨byte, more, encoding⟩
      rw [encoding] at same
      cases same
    | malformed malformed _ =>
      exact absurd (List.append_eq_nil_iff.mp same.symm).1 malformed.nonempty
  | @point point rest decoded scalar _ inner =>
    cases otherDecodes with
    | nil =>
      rcases encodePoint_eq_cons point with ⟨byte, more, encoding⟩
      rw [encoding] at same
      cases same
    | point otherScalar later =>
      rcases encodePoint_unique scalar otherScalar same with ⟨rfl, sameRest⟩
      rw [inner later sameRest]
    | malformed malformed _ => exact absurd ⟨rest, same⟩ (malformed.unreadable point scalar)
  | @malformed piece rest decoded malformed _ inner =>
    cases otherDecodes with
    | nil => exact absurd (List.append_eq_nil_iff.mp same).1 malformed.nonempty
    | @point other otherRest _ otherScalar _ =>
      exact absurd ⟨otherRest, same.symm⟩ (malformed.unreadable other otherScalar)
    | malformed otherMalformed later =>
      rw [inner later (malformed.unique otherMalformed same).2]

/-! ## The decoder -/

/-- What the decoder still puts out from a state on. -/
def output (state : State) : List UInt8 → Text
  | [] => rest state
  | byte :: later => (step state byte).1 ++ output (step state byte).2 later

theorem run_output
    (reversed : Text)
    (state : State)
    (bytes : List UInt8) :
    (run (reversed, state) bytes).1.reverse ++ rest (run (reversed, state) bytes).2
      = reversed.reverse ++ output state bytes := by
  induction bytes generalizing reversed state with
  | nil => rfl
  | cons byte later inner =>
    have stepped : run (reversed, state) (byte :: later)
        = run ((step state byte).1.reverse ++ reversed, (step state byte).2) later := rfl
    rw [stepped, inner, List.reverse_append, List.reverse_reverse, List.append_assoc]
    rfl

theorem decode_eq_output (bytes : List UInt8) : decode bytes = output .between bytes :=
  run_output [] .between bytes

section

variable
    {owed value : Nat}
    {low high byte : UInt8}

theorem step_last (bounds : low.toNat ≤ byte.toNat ∧ byte.toNat ≤ high.toNat) :
    step (.inside 0 low high value) byte
      = (ofCodePoint (value * 0x40 + (byte.toNat - 0x80)), .between) := by
  have accepted : (low ≤ byte && byte ≤ high) = true := by
    simpa [UInt8.le_iff_toNat_le] using bounds
  exact if_pos accepted

theorem step_more (bounds : low.toNat ≤ byte.toNat ∧ byte.toNat ≤ high.toNat) :
    step (.inside (owed + 1) low high value) byte
      = ([], .inside owed 0x80 0xBF (value * 0x40 + (byte.toNat - 0x80))) := by
  have accepted : (low ≤ byte && byte ≤ high) = true := by
    simpa [UInt8.le_iff_toNat_le] using bounds
  exact if_pos accepted

/-- A byte on which the decoder cannot go on is read as if it stood between characters. -/
theorem output_outside
    (outside : ¬ (low.toNat ≤ byte.toNat ∧ byte.toNat ≤ high.toNat))
    (later : List UInt8) :
    output (.inside owed low high value) (byte :: later)
      = replacement :: output .between (byte :: later) := by
  have refused : ¬ (low ≤ byte && byte ≤ high) = true := by
    simpa [UInt8.le_iff_toNat_le] using outside
  rw [output, step, if_neg refused]
  rfl

end

theorem Inside.not_encoding
    {state : State}
    {seen : List UInt8}
    (inside : Inside state seen)
    {point : Nat}
    (scalar : IsScalar point) :
    ¬ encodePoint point <+: seen := by
  rintro ⟨rest, rfl⟩
  rcases inside.completable with ⟨more, other, completes⟩
  rcases inside.completes_iff.mpr completes with ⟨otherScalar, encoding⟩
  have same : encodePoint other ++ [] = encodePoint point ++ (rest ++ more) := by
    rw [List.append_nil, encoding, List.append_assoc]
  have none := (encodePoint_unique otherScalar scalar same).2
  rw [(List.append_eq_nil_iff.mp none.symm).2] at completes
  cases completes

/-- What the decoder has seen of a character is replaced if it cannot go on. -/
theorem Inside.malformed
    {state : State}
    {seen rest : List UInt8}
    (inside : Inside state seen)
    (stuck : ∀ byte ∈ rest.head?, ¬ Begins (seen ++ [byte])) :
    Malformed seen rest := by
  -- What is longer than the bytes that were seen has the next byte in it.
  have short {bytes : List UInt8}
      (isPrefix : bytes <+: seen ++ rest)
      (begins : Begins bytes) :
      bytes.length ≤ seen.length := by
    refine Nat.le_of_not_lt fun longer => ?_
    cases rest with
    | nil =>
      rw [List.append_nil] at isPrefix
      exact absurd isPrefix.length_le (Nat.not_le.mpr longer)
    | cons byte later =>
      have front : seen ++ [byte] <+: seen ++ byte :: later := ⟨later, by simp⟩
      have included : seen ++ [byte] <+: bytes :=
        List.prefix_of_prefix_length_le front isPrefix (by simpa using Nat.succ_le_of_lt longer)
      exact stuck byte rfl (begins.of_prefix included)
  refine ⟨?_, inside.nonempty, .inl inside.begins, fun _ => short⟩
  intro point scalar isPrefix
  have whole := short isPrefix ⟨point, scalar, List.prefix_rfl⟩
  exact inside.not_encoding scalar
    (List.prefix_of_prefix_length_le isPrefix (List.prefix_append seen rest) whole)

/-- A byte with which no encoding begins is replaced. -/
theorem malformed_byte
    {byte : UInt8}
    (notBegins : ¬ Begins [byte])
    (rest : List UInt8) :
    Malformed [byte] rest := by
  refine ⟨?_, List.cons_ne_nil _ _, .inr rfl, ?_⟩
  · intro point scalar isPrefix
    rcases encodePoint_eq_cons point with ⟨first, more, encoding⟩
    rw [encoding, List.singleton_append, List.cons_prefix_cons] at isPrefix
    rcases isPrefix with ⟨rfl, _⟩
    exact notBegins ⟨point, scalar, more, encoding.symm⟩
  · intro longer isPrefix begins
    cases longer with
    | nil => exact Nat.zero_le _
    | cons first others =>
      rw [List.singleton_append, List.cons_prefix_cons] at isPrefix
      rcases isPrefix with ⟨rfl, _⟩
      exact absurd (begins.of_prefix ⟨others, rfl⟩) notBegins

/-- The units that the decoder puts out from a state on are what the bytes mean. -/
theorem decodes_output (bytes : List UInt8) :
    Decodes bytes (output .between bytes) ∧
      ∀ state seen, Inside state seen → Decodes (seen ++ bytes) (output state bytes) := by
  induction bytes with
  | nil =>
    refine ⟨.nil, ?_⟩
    intro state seen inside
    cases state with
    | between =>
      rcases inside.completable with ⟨_, _, completes⟩
      cases completes
    | inside owed low high value => exact .malformed (inside.malformed nofun) .nil
  | cons byte later inner =>
    rcases inner with ⟨between, insideLater⟩
    have fresh : Decodes (byte :: later) (output .between (byte :: later)) := by
      rw [output, step]
      rcases begin_cases byte with
        ⟨ascii, begun⟩ | ⟨state, begun, inside⟩ | ⟨begun, notBegins⟩
      · have decodes := between.point (.inl (Nat.lt_trans ascii (by decide)))
        have itself : byte.toNat.toUInt8 = byte := UInt8.ofNat_toNat
        have widened : byte.toNat.toUInt16 = byte.toUInt16 := by simp
        rw [encodePoint_one ascii, ofCodePoint, if_pos (by omega), itself, widened] at decodes
        rw [begun]
        exact decodes
      · rw [begun]
        exact insideLater state [byte] inside
      · rw [begun]
        exact .malformed (malformed_byte notBegins later) between
    refine ⟨fresh, ?_⟩
    intro state seen inside
    cases state with
    | between =>
      rcases inside.completable with ⟨_, _, completes⟩
      cases completes
    | inside owed low high value =>
      by_cases bounds : low.toNat ≤ byte.toNat ∧ byte.toNat ≤ high.toNat
      · cases owed with
        | zero =>
          rcases inside.finished bounds with ⟨scalar, encoding⟩
          have decodes := between.point scalar
          rw [encoding, List.append_assoc, List.singleton_append] at decodes
          simpa only [output, step_last bounds] using decodes
        | succ owed =>
          have decodes := insideLater _ _ (inside.next bounds)
          rw [List.append_assoc, List.singleton_append] at decodes
          simpa only [output, step_more bounds, List.nil_append] using decodes
      · rw [output_outside bounds]
        refine .malformed (inside.malformed ?_) fresh
        rintro _ ⟨⟩
        exact inside.not_begins bounds

/-- The decoder finds the one text that the bytes mean. -/
theorem decodes_iff
    {bytes : List UInt8}
    {decoded : Text} :
    Decodes bytes decoded ↔ decode bytes = decoded := by
  have found : Decodes bytes (decode bytes) := by
    rw [decode_eq_output]
    exact (decodes_output bytes).1
  constructor
  · intro decodes
    exact found.unique decodes rfl
  · rintro rfl
    exact found

/-- Three bytes of a character that is cut off are replaced together, a stray byte on its own. -/
example : Decodes [0xF0, 0x9F, 0x98, 0x41, 0xC0] [0xFFFD, 0x41, 0xFFFD] :=
  decodes_iff.mpr (by decide)

end Utf8

/-! ## Texts without lone surrogates -/

/-- The second half of a surrogate pair. -/
def IsLowSurrogate (unit : CodeUnit) : Prop :=
  0xDC00 ≤ unit.toNat ∧ unit.toNat ≤ 0xDFFF

instance (unit : CodeUnit) : Decidable (IsLowSurrogate unit) :=
  inferInstanceAs (Decidable (_ ∧ _))

/-- Every surrogate of the text stands in a pair. -/
inductive Paired : Text → Prop where
  | nil : Paired []
  | single
      {unit : CodeUnit}
      {rest : Text} :
      unit.isHighSurrogate = false →
      ¬ IsLowSurrogate unit →
      Paired rest →
      Paired (unit :: rest)
  | pair
      {high low : CodeUnit}
      {rest : Text} :
      high.isHighSurrogate = true →
      IsLowSurrogate low →
      Paired rest →
      Paired (high :: low :: rest)

theorem consUnit_of_not_high
    {unit : CodeUnit}
    (notHigh : unit.isHighSurrogate = false)
    (following : List Nat) :
    consUnit unit following = unit.toNat :: following := by
  cases following with
  | nil => rfl
  | cons next rest => simp [consUnit, notHigh]

theorem consUnit_pair
    {high low : CodeUnit}
    (isHigh : high.isHighSurrogate = true)
    (isLow : IsLowSurrogate low)
    (following : List Nat) :
    consUnit high (consUnit low following)
      = (0x10000 + (high.toNat - 0xD800) * 0x400 + (low.toNat - 0xDC00)) :: following := by
  have notHigh : low.isHighSurrogate = false := by
    rw [Bool.eq_false_iff, ne_eq, isHighSurrogate_iff]
    unfold IsLowSurrogate at isLow
    omega
  rw [consUnit_of_not_high notHigh, consUnit]
  simp [isHigh, isLow.1, isLow.2]

/-- The code points of a text without lone surrogates can all be encoded. -/
theorem Paired.isScalar
    {text : Text}
    (paired : text.Paired) :
    ∀ point ∈ text.codePoints, Utf8.IsScalar point := by
  induction paired with
  | nil => nofun
  | @single unit rest notHigh notLow _ inner =>
    rw [codePoints_cons, consUnit_of_not_high notHigh, List.forall_mem_cons]
    refine ⟨?_, inner⟩
    have bounded := unit.toNat_lt
    rw [Bool.eq_false_iff, ne_eq, isHighSurrogate_iff] at notHigh
    unfold IsLowSurrogate at notLow
    unfold Utf8.IsScalar
    omega
  | @pair high low rest isHigh isLow _ inner =>
    rw [codePoints_cons, codePoints_cons, consUnit_pair isHigh isLow, List.forall_mem_cons]
    refine ⟨?_, inner⟩
    have bounds := isHighSurrogate_iff.mp isHigh
    unfold IsLowSurrogate at isLow
    exact .inr (by omega)

namespace Utf8

theorem decodes_flatMap
    {points : List Nat}
    (scalars : ∀ point ∈ points, IsScalar point) :
    Decodes (points.flatMap encodePoint) (points.flatMap ofCodePoint) := by
  induction points with
  | nil => exact .nil
  | cons point rest inner =>
    rcases List.forall_mem_cons.mp scalars with ⟨first, others⟩
    exact .point first (inner others)

/-- The bytes of a text without lone surrogates mean that text. -/
theorem decodes_encode
    {text : Text}
    (paired : text.Paired) :
    Decodes (encode text) text := by
  have decodes := decodes_flatMap paired.isScalar
  rwa [flatMap_codePoints] at decodes

end Utf8

end InfixCalc.Text
