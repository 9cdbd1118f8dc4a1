import InfixCalc.Double.Reader
import InfixCalc.Proofs.Text.Scientific
import Mathlib.Data.List.TakeWhile
import Mathlib.Data.Nat.Digits.Defs

/-!
# What texts count as

Numbers are written in decimal notation, in another base behind a prefix, or as an
infinity, and blanks around them do not matter.  Every text counts as one double: blanks
alone as zero, a number that is written as that number, and anything else as no number.
-/

namespace InfixCalc

/-! ## Blanks around a word -/

namespace Text

/-- The text is the word with blanks in front of it and behind it. -/
def Pads (word text : Text) : Prop :=
  ∃ before after, text = before ++ word ++ after ∧ before.isBlank ∧ after.isBlank

theorem pads_trim (text : Text) : Pads text.trim text := by
  generalize rest : text.dropWhile CodeUnit.isBlank = kept
  have front := List.takeWhile_append_dropWhile (p := CodeUnit.isBlank) (l := text)
  have back := List.takeWhile_append_dropWhile (p := CodeUnit.isBlank) (l := kept.reverse)
  have backwards := congrArg List.reverse back
  rw [List.reverse_append, List.reverse_reverse] at backwards
  refine ⟨text.takeWhile CodeUnit.isBlank,
    (kept.reverse.takeWhile CodeUnit.isBlank).reverse, ?_, ?_, ?_⟩
  · rw [trim, rest, List.append_assoc, backwards, ← rest, front]
  · exact List.all_takeWhile
  · rw [isBlank, List.all_reverse]
    exact List.all_takeWhile

theorem dropWhile_blanks
    {before rest : Text}
    (blank : before.isBlank)
    (solid : ∀ unit ∈ rest.head?, unit.isBlank = false) :
    (before ++ rest).dropWhile CodeUnit.isBlank = rest := by
  rw [List.dropWhile_append_of_pos (List.all_eq_true.mp blank)]
  cases rest with
  | nil => rfl
  | cons unit others => simp [solid unit rfl]

/-- Blanks are taken away up to the word. -/
theorem trim_of_pads
    {word text : Text}
    (pads : Pads word text)
    (solid : ∀ unit ∈ word, unit.isBlank = false) :
    text.trim = word := by
  rcases pads with ⟨before, after, rfl, blankBefore, blankAfter⟩
  have reversed : isBlank after.reverse := by
    rwa [isBlank, List.all_reverse]
  have trimmedBack : (word ++ after).reverse.dropWhile CodeUnit.isBlank = word.reverse := by
    rw [List.reverse_append]
    apply dropWhile_blanks reversed
    intro unit last
    exact solid unit (List.mem_reverse.mp (List.mem_of_mem_head? last))
  cases word with
  | nil =>
    -- Without a word the front blanks run into those behind, and all go at once.
    have blank : isBlank (before ++ after) := by
      rw [isBlank, List.all_append, Bool.and_eq_true]
      exact ⟨blankBefore, blankAfter⟩
    have nothing : (before ++ after).dropWhile CodeUnit.isBlank = [] :=
      List.dropWhile_eq_nil_iff.mpr (List.all_eq_true.mp blank)
    rw [List.append_nil, trim, nothing]
    rfl
  | cons unit rest =>
    have trimmedFront : (before ++ (unit :: rest ++ after)).dropWhile CodeUnit.isBlank
        = unit :: rest ++ after := by
      apply dropWhile_blanks blankBefore
      rintro _ ⟨⟩
      exact solid unit List.mem_cons_self
    rw [trim, List.append_assoc, trimmedFront, trimmedBack, List.reverse_reverse]

end Text

/-- A letter, a digit or a mark of ASCII. -/
def CodeUnit.Visible (unit : CodeUnit) : Prop :=
  0x21 ≤ unit.toNat ∧ unit.toNat ≤ 0x7E

instance CodeUnit.decidableVisible (unit : CodeUnit) : Decidable unit.Visible :=
  inferInstanceAs (Decidable (_ ∧ _))

/-- The units of a text are looked at one by one. -/
theorem CodeUnit.visible_of_all
    {text : Text}
    (all : text.all fun unit => decide unit.Visible) :
    ∀ unit ∈ text, unit.Visible :=
  fun unit member => of_decide_eq_true (List.all_eq_true.mp all unit member)

theorem CodeUnit.Visible.not_blank
    {unit : CodeUnit}
    (visible : unit.Visible) :
    unit.isBlank = false := by
  rw [Visible] at visible
  simp only [isBlank, Bool.or_eq_false_iff, Bool.and_eq_false_iff, decide_eq_false_iff_not,
    beq_eq_false_iff_ne, UInt16.le_iff_toNat_le, ne_eq, ← UInt16.toNat_inj, UInt16.reduceToNat]
  omega

/-! ## Digits in a base -/

theorem CodeUnit.visible_of_digitIn?
    {base value : Nat}
    {unit : CodeUnit}
    (isDigit : unit.digitIn? base = some value) :
    unit.Visible := by
  rw [digitIn?, Option.filter_eq_some_iff] at isDigit
  rw [Visible]
  rcases isDigit with ⟨found, _⟩
  simp only [CodeUnit.isDigit, Bool.and_eq_true, decide_eq_true_eq, UInt16.le_iff_toNat_le,
    UInt16.reduceToNat] at found
  split_ifs at found
  · omega
  · omega
  · omega

namespace Text

/-- Digits are read from the left, each of them adding a place to what stands in front. -/
theorem foldlM_digitIn?_eq_some_iff
    {base start number : Nat}
    {digits : Text} :
    digits.foldlM (fun value unit => (unit.digitIn? base).map (value * base + ·)) start
        = some number ↔
      ∃ values : List Nat,
        digits.map (CodeUnit.digitIn? base) = values.map some ∧
          number = values.foldl (fun value digit => value * base + digit) start := by
  induction digits generalizing start with
  | nil =>
    constructor
    · rintro ⟨⟩
      exact ⟨[], rfl, rfl⟩
    · rintro ⟨values, areDigits, rfl⟩
      rw [List.map_eq_nil_iff.mp areDigits.symm]
      rfl
  | cons unit rest inner =>
    rw [List.foldlM_cons, Option.bind_eq_bind, Option.bind_eq_some_iff]
    constructor
    · rintro ⟨next, read, later⟩
      rcases Option.map_eq_some_iff.mp read with ⟨value, isDigit, rfl⟩
      rcases inner.mp later with ⟨values, areDigits, rfl⟩
      exact ⟨value :: values, congrArg₂ List.cons isDigit areDigits, rfl⟩
    · rintro ⟨values, areDigits, rfl⟩
      cases values with
      | nil => cases areDigits
      | cons value others =>
        rcases List.cons.inj areDigits with ⟨isDigit, areOthers⟩
        exact ⟨_, by rw [isDigit, Option.map_some], inner.mpr ⟨others, areOthers, rfl⟩⟩

/-- Digits stand for the number that they are the digits of. -/
theorem readDigits?_eq_some_iff
    {base number : Nat}
    {digits : Text} :
    readDigits? base digits = some number ↔
      digits ≠ [] ∧ ∃ values : List Nat,
        digits.map (CodeUnit.digitIn? base) = values.map some ∧
          number = Nat.ofDigits base values.reverse := by
  have value (values : List Nat) :
      values.foldl (fun value digit => value * base + digit) 0
        = Nat.ofDigits base values.reverse := by
    rw [Nat.ofDigits_eq_foldr, List.foldr_reverse]
    simp only [Nat.cast_id, Nat.add_comm, Nat.mul_comm]
  rw [readDigits?]
  split_ifs with empty
  · simp [List.isEmpty_iff.mp empty]
  · rw [foldlM_digitIn?_eq_some_iff]
    simp only [value]
    exact (and_iff_right (mt List.isEmpty_iff.mpr empty)).symm

end Text

/-! ## Numbers as they are written -/

namespace Double

/-- Ways to write a number without blanks around it. -/
inductive Written : Text → Double → Prop where
  /-- A prefix that announces the base, and digits in that base. -/
  | inBase
      {letter : CodeUnit}
      {base : Nat}
      {digits : Text}
      {values : List Nat} :
      radix? letter = some base →
      digits ≠ [] →
      digits.map (CodeUnit.digitIn? base) = values.map some →
      Written (0x30 :: letter :: digits) (ofNat (Nat.ofDigits base values.reverse))
  | infinity (sign : Option Bool) :
      Written (Scientific.signText sign ++ text "Infinity") (infinite (sign == some true))
  | decimal
      {word : Text}
      {parts : Scientific} :
      parts.Writes word →
      parts.hasDigits →
      Written word (ofParts parts)

/-- The number that a word writes, if it writes one. -/
def ofWord? (word : Text) : Option Double :=
  (ofRadixText? word).or
    ((ofInfinityText? word).or
      (((Scientific.ofText? word).filter Scientific.hasDigits).map ofParts))

theorem ofText_eq (text : Text) :
    ofText text = if text.trim = [] then zero false else (ofWord? text.trim).getD nan := by
  rw [ofText, ofWord?]
  simp only [List.isEmpty_iff]
  split_ifs
  · rfl
  · cases ofRadixText? text.trim with
    | some number => rfl
    | none =>
      cases ofInfinityText? text.trim with
      | some number => rfl
      | none =>
        cases Scientific.ofText? text.trim with
        | none => rfl
        | some parts => cases digits : parts.hasDigits <;> simp [digits, Option.filter]

theorem ofRadixText?_eq_some_iff
    {word : Text}
    {number : Double} :
    ofRadixText? word = some number ↔
      ∃ letter base digits value,
        word = 0x30 :: letter :: digits ∧
          radix? letter = some base ∧
          Text.readDigits? base digits = some value ∧
          number = ofNat value := by
  constructor
  · intro read
    unfold ofRadixText? at read
    split at read
    · rename_i zero letter digits
      split_ifs at read with isZero
      rcases Option.bind_eq_some_iff.mp read with ⟨base, isRadix, digitsRead⟩
      rcases Option.map_eq_some_iff.mp digitsRead with ⟨value, isValue, rfl⟩
      exact ⟨letter, base, digits, value, by rw [eq_of_beq isZero], isRadix, isValue, rfl⟩
    · cases read
  · rintro ⟨letter, base, digits, value, rfl, isRadix, isValue, rfl⟩
    simp [ofRadixText?, isRadix, isValue]

theorem ofInfinityText?_eq_some_iff
    {word : Text}
    {number : Double} :
    ofInfinityText? word = some number ↔
      ∃ sign, word = Scientific.signText sign ++ text "Infinity" ∧
        number = infinite (sign == some true) := by
  constructor
  · intro read
    have whole := Scientific.append_splitSign word
    rw [ofInfinityText?] at read
    generalize Scientific.splitSign word = split at read whole
    rcases split with ⟨sign, rest⟩
    dsimp only at read whole
    split_ifs at read with spelled
    cases read
    rw [eq_of_beq spelled] at whole
    exact ⟨sign, whole.symm, rfl⟩
  · rintro ⟨sign, rfl, rfl⟩
    rcases sign with _ | _ | _ <;> rfl

/-- The letters that announce a base. -/
theorem radix?_cases
    {letter : CodeUnit}
    {base : Nat}
    (isRadix : radix? letter = some base) :
    letter ∈ [0x78, 0x58, 0x6F, 0x4F, 0x62, 0x42] := by
  simp only [radix?, Bool.or_eq_true, beq_iff_eq] at isRadix
  split_ifs at isRadix with hexadecimal octal binary
  · rcases hexadecimal with rfl | rfl <;> decide
  · rcases octal with rfl | rfl <;> decide
  · rcases binary with rfl | rfl <;> decide

/-- A prefix for a base is no part of a decimal number. -/
theorem ofText?_inBase
    {letter : CodeUnit}
    {base : Nat}
    (isRadix : radix? letter = some base)
    (digits : Text) :
    Scientific.ofText? (0x30 :: letter :: digits) = none := by
  have letters := radix?_cases isRadix
  simp only [List.mem_cons, List.not_mem_nil, or_false] at letters
  rcases letters with rfl | rfl | rfl | rfl | rfl | rfl <;> rfl

theorem ofText?_infinity (sign : Option Bool) :
    Scientific.ofText? (Scientific.signText sign ++ text "Infinity") = none := by
  rcases sign with _ | _ | _ <;> rfl

theorem ofRadixText?_infinity (sign : Option Bool) :
    ofRadixText? (Scientific.signText sign ++ text "Infinity") = none := by
  rcases sign with _ | _ | _ <;> rfl

/-- The number of a word is the one that it writes. -/
theorem ofWord?_eq_some_iff
    {word : Text}
    {number : Double} :
    ofWord? word = some number ↔ Written word number := by
  simp only [ofWord?, Option.or_eq_some_iff]
  constructor
  · rintro (inBase | ⟨_, infinity | ⟨_, decimal⟩⟩)
    · rcases ofRadixText?_eq_some_iff.mp inBase with
        ⟨letter, base, digits, value, rfl, isRadix, isValue, rfl⟩
      rcases Text.readDigits?_eq_some_iff.mp isValue with ⟨nonempty, values, areDigits, rfl⟩
      exact .inBase isRadix nonempty areDigits
    · rcases ofInfinityText?_eq_some_iff.mp infinity with ⟨sign, rfl, rfl⟩
      exact .infinity sign
    · rcases Option.map_eq_some_iff.mp decimal with ⟨parts, filtered, rfl⟩
      rcases Option.filter_eq_some_iff.mp filtered with ⟨read, hasDigits⟩
      exact .decimal (Scientific.ofText?_eq_some_iff.mp read) hasDigits
  · intro written
    cases written with
    | inBase isRadix nonempty areDigits =>
      have isValue := Text.readDigits?_eq_some_iff.mpr ⟨nonempty, _, areDigits, rfl⟩
      exact .inl (ofRadixText?_eq_some_iff.mpr ⟨_, _, _, _, rfl, isRadix, isValue, rfl⟩)
    | infinity sign =>
      have isInfinity := ofInfinityText?_eq_some_iff.mpr ⟨sign, rfl, rfl⟩
      exact .inr ⟨ofRadixText?_infinity sign, .inl isInfinity⟩
    | @decimal word parts writes hasDigits =>
      -- The readers are tried in turn, so the first two have to leave the word alone.
      have read := Scientific.ofText?_eq_some_iff.mpr writes
      have noBase : ofRadixText? word = none := by
        rw [Option.eq_none_iff_forall_ne_some]
        intro number inBase
        rcases ofRadixText?_eq_some_iff.mp inBase with ⟨letter, base, digits, _, rfl, isRadix, _⟩
        rw [ofText?_inBase isRadix] at read
        cases read
      have noInfinity : ofInfinityText? word = none := by
        rw [Option.eq_none_iff_forall_ne_some]
        intro number infinity
        rcases ofInfinityText?_eq_some_iff.mp infinity with ⟨sign, rfl, _⟩
        rw [ofText?_infinity] at read
        cases read
      refine .inr ⟨noBase, .inr ⟨noInfinity, ?_⟩⟩
      rw [read, Option.filter_some, if_pos hasDigits, Option.map_some]

end Double

/-! ## Numbers hold no blanks -/

theorem CodeUnit.visible_of_isDigit
    {unit : CodeUnit}
    (digit : unit.isDigit) :
    unit.Visible := by
  simp only [isDigit, Bool.and_eq_true, decide_eq_true_eq, UInt16.le_iff_toNat_le,
    UInt16.reduceToNat] at digit
  rw [Visible]
  omega

theorem Scientific.visible_signText (sign : Option Bool) :
    ∀ unit ∈ signText sign, unit.Visible := by
  rcases sign with _ | _ | _ <;> exact CodeUnit.visible_of_all (by decide)

theorem Scientific.WritesPower.visible
    {power : Option ℤ}
    {tail : Text}
    (writes : WritesPower power tail) :
    ∀ unit ∈ tail, unit.Visible := by
  cases writes with
  | absent => nofun
  | @present mark sign digits isMark digit _ =>
    have markVisible : mark.Visible := by
      rcases isMark with rfl | rfl <;> decide
    rw [List.forall_mem_cons, List.forall_mem_append]
    exact ⟨markVisible, visible_signText sign,
      fun unit member => CodeUnit.visible_of_isDigit (digit unit member)⟩

theorem Scientific.Writes.visible
    {parts : Scientific}
    {word : Text}
    (writes : parts.Writes word) :
    ∀ unit ∈ word, unit.Visible := by
  cases writes with
  | @parts sign whole fraction power tail digit fractionDigit powerWrites =>
    have fractionVisible : ∀ unit ∈ fractionText fraction, unit.Visible := by
      cases fraction with
      | none => nofun
      | some digits =>
        rw [fractionText, List.forall_mem_cons]
        exact ⟨by decide,
          fun unit member => CodeUnit.visible_of_isDigit (fractionDigit digits rfl unit member)⟩
    have wholeVisible : ∀ unit ∈ whole, unit.Visible :=
      fun unit member => CodeUnit.visible_of_isDigit (digit unit member)
    simp only [List.forall_mem_append]
    exact ⟨visible_signText sign, wholeVisible, fractionVisible, powerWrites.visible⟩

theorem Double.Written.visible
    {word : Text}
    {number : Double}
    (written : Written word number) :
    ∀ unit ∈ word, unit.Visible := by
  cases written with
  | @inBase letter base digits values isRadix _ areDigits =>
    have letterVisible : letter.Visible :=
      CodeUnit.visible_of_all (by decide) letter (radix?_cases isRadix)
    have digitsVisible : ∀ unit ∈ digits, unit.Visible := by
      intro unit member
      have found : unit.digitIn? base ∈ values.map some := areDigits ▸ List.mem_map_of_mem member
      rcases List.mem_map.mp found with ⟨value, _, isDigit⟩
      exact CodeUnit.visible_of_digitIn? isDigit.symm
    rw [List.forall_mem_cons, List.forall_mem_cons]
    exact ⟨by decide, letterVisible, digitsVisible⟩
  | infinity sign =>
    rw [List.forall_mem_append]
    exact ⟨Scientific.visible_signText sign, CodeUnit.visible_of_all (by decide)⟩
  | decimal writes _ => exact writes.visible

/-! ## Texts -/

/-- What a text counts as.  Blanks around a number do not matter. -/
inductive Text.CountsAs (text : Text) : Double → Prop where
  | nothing :
      Pads [] text →
      CountsAs text (.zero false)
  | number
      {word : Text}
      {number : Double} :
      Pads word text →
      Double.Written word number →
      CountsAs text number
  | nonsense :
      ¬ Pads [] text →
      (∀ word number, Pads word text → ¬ Double.Written word number) →
      CountsAs text .nan

/-- Without its blanks, a text is the number that it is written as. -/
theorem Double.Written.trim_eq
    {word text : Text}
    {number : Double}
    (written : Written word number)
    (pads : Text.Pads word text) :
    text.trim = word :=
  Text.trim_of_pads pads fun unit member => (written.visible unit member).not_blank

/-- Every text counts as one double, the one that it is read as. -/
theorem Text.countsAs_iff
    {text : Text}
    {number : Double} :
    text.CountsAs number ↔ Double.ofText text = number := by
  rw [Double.ofText_eq]
  constructor
  · intro counts
    cases counts with
    | nothing pads => rw [if_pos (trim_of_pads pads nofun)]
    | @number word _ pads written =>
      have read := Double.ofWord?_eq_some_iff.mpr written
      have nonempty : word ≠ [] := by
        rintro rfl
        cases read
      rw [written.trim_eq pads, if_neg nonempty, read, Option.getD_some]
    | nonsense something noNumber =>
      have nonempty : text.trim ≠ [] := fun empty => something (empty ▸ pads_trim text)
      rw [if_neg nonempty]
      cases read : Double.ofWord? text.trim with
      | none => rfl
      | some found =>
        exact absurd (Double.ofWord?_eq_some_iff.mp read) (noNumber _ found (pads_trim text))
  · rintro rfl
    split_ifs with empty
    · exact .nothing (empty ▸ pads_trim text)
    · cases read : Double.ofWord? text.trim with
      | none =>
        apply CountsAs.nonsense
        · exact fun pads => empty (trim_of_pads pads nofun)
        · intro word number pads written
          rw [written.trim_eq pads, Double.ofWord?_eq_some_iff.mpr written] at read
          cases read
      | some found => exact .number (pads_trim text) (Double.ofWord?_eq_some_iff.mp read)

end InfixCalc
