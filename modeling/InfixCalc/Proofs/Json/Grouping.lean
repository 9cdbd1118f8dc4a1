import InfixCalc.Json.Printer
import InfixCalc.Json.Reader
import InfixCalc.Proofs.Double.Numeral
import InfixCalc.Proofs.Text.CodePoint

/-!
# Written lexemes are grouped again

A piece of written JSON reads as lexemes if it makes no difference whether the
grouping takes its units or has these lexemes already.  A word is complete only with
the unit behind it, so pieces may have to end in front of a delimiter, or of nothing.
Strings are read back whatever their units are: each escape stands for the units of
one code point.
-/

namespace InfixCalc.Json

/-! ## Reading pieces -/

/-- The unit ends a word that stands in front of it. -/
def isDelimiter (unit : CodeUnit) : Bool :=
  isSpace unit || unit == 0x22 || (mark? unit).isSome

/-- A word may end in front of the text. -/
def Delimits (text : Text) : Prop :=
  ∀ unit ∈ text.head?, isDelimiter unit

namespace Grouping

/-- All lexemes, once the rest of the text has been read. -/
def run?
    (grouping : Grouping)
    (rest : Text) :
    Option (List Lexeme) :=
  (rest.foldlM step grouping).bind finish?

theorem run?_cons
    (grouping : Grouping)
    (unit : CodeUnit)
    (rest : Text) :
    grouping.run? (unit :: rest) = (grouping.step unit).bind fun next => next.run? rest := by
  simp only [run?, List.foldlM_cons]
  exact Option.bind_assoc ..

theorem run?_append
    {grouping next : Grouping}
    {first : Text}
    (reached : first.foldlM step grouping = some next)
    (rest : Text) :
    grouping.run? (first ++ rest) = next.run? rest := by
  rw [run?, List.foldlM_append, reached]
  rfl

end Grouping

/-- The text is read as the lexemes wherever a word may end behind it. -/
def Reads
    (text : Text)
    (lexemes : List Lexeme) :
    Prop :=
  ∀ (before : List Lexeme) (rest : Text), Delimits rest →
    Grouping.run? ⟨before, .between⟩ (text ++ rest)
      = Grouping.run? ⟨lexemes.reverse ++ before, .between⟩ rest

/-- The text is read as the lexemes whatever comes behind it. -/
def ReadsExactly
    (text : Text)
    (lexemes : List Lexeme) :
    Prop :=
  ∀ (before : List Lexeme) (rest : Text),
    Grouping.run? ⟨before, .between⟩ (text ++ rest)
      = Grouping.run? ⟨lexemes.reverse ++ before, .between⟩ rest

theorem ReadsExactly.reads
    {text : Text}
    {lexemes : List Lexeme}
    (exact : ReadsExactly text lexemes) :
    Reads text lexemes :=
  fun before rest _ => exact before rest

theorem readsExactly_nil : ReadsExactly [] [] :=
  fun _ _ => rfl

section

variable
    {first second : Text}
    {firstLexemes secondLexemes : List Lexeme}

theorem ReadsExactly.append
    (exact : ReadsExactly first firstLexemes)
    (exactly : ReadsExactly second secondLexemes) :
    ReadsExactly (first ++ second) (firstLexemes ++ secondLexemes) := by
  intro before rest
  rw [List.append_assoc, exact, exactly, List.reverse_append, List.append_assoc]

theorem ReadsExactly.append_reads
    (exact : ReadsExactly first firstLexemes)
    (reads : Reads second secondLexemes) :
    Reads (first ++ second) (firstLexemes ++ secondLexemes) := by
  intro before rest delimits
  rw [List.append_assoc, exact, reads _ _ delimits, List.reverse_append, List.append_assoc]

theorem Reads.append
    (reads : Reads first firstLexemes)
    (delimits : Delimits second)
    (others : Reads second secondLexemes) :
    Reads (first ++ second) (firstLexemes ++ secondLexemes) := by
  intro before rest restDelimits
  have joint : Delimits (second ++ rest) := by
    cases second with
    | nil => exact restDelimits
    | cons unit tail => exact delimits
  rw [List.append_assoc, reads _ _ joint, others _ _ restDelimits, List.reverse_append,
    List.append_assoc]

end

/-! ## Marks, blanks and words -/

theorem readsExactly_mark
    {unit : CodeUnit}
    {mark : Lexeme}
    (noSpace : isSpace unit = false)
    (noQuote : unit ≠ 0x22)
    (isMark : mark? unit = some mark) :
    ReadsExactly [unit] [mark] := by
  intro before rest
  rw [List.singleton_append, Grouping.run?_cons, Grouping.step, Grouping.stepBetween]
  simp [noSpace, noQuote, isMark]

theorem readsExactly_spaces
    {spaces : Text}
    (isSpaces : ∀ unit ∈ spaces, isSpace unit = true) :
    ReadsExactly spaces [] := by
  induction spaces with
  | nil => exact readsExactly_nil
  | cons unit others inner =>
    rcases List.forall_mem_cons.mp isSpaces with ⟨first, later⟩
    intro before rest
    rw [List.cons_append, Grouping.run?_cons, Grouping.step, Grouping.stepBetween]
    simp only [first, if_true, Option.bind_some]
    exact inner later before rest

/-- A word has units, and none of them is a delimiter. -/
def isWord (word : Text) : Bool :=
  !word.isEmpty && word.all fun unit => !isDelimiter unit

theorem isWord_cons
    {unit : CodeUnit}
    {others : Text} :
    isWord (unit :: others) ↔
      isDelimiter unit = false ∧ ∀ other ∈ others, isDelimiter other = false := by
  simp [isWord]

theorem foldlM_step_word
    {before : List Lexeme}
    {word : Text}
    (plain : ∀ unit ∈ word, isDelimiter unit = false)
    (reversed : Text) :
    word.foldlM Grouping.step ⟨before, .word reversed⟩
      = some ⟨before, .word (word.reverse ++ reversed)⟩ := by
  induction word generalizing reversed with
  | nil => rfl
  | cons unit others inner =>
    rcases List.forall_mem_cons.mp plain with ⟨first, later⟩
    have next : Grouping.step ⟨before, .word reversed⟩ unit
        = some ⟨before, .word (unit :: reversed)⟩ := by
      rw [isDelimiter] at first
      simp only [Grouping.step, first, Bool.false_eq_true, if_false]
    rw [List.foldlM_cons, next, Option.bind_eq_bind, Option.bind_some, inner later]
    simp

/-- A word that comes to its end is complete. -/
theorem run?_word
    {before : List Lexeme}
    {reversed rest : Text}
    {value : Json}
    (read : ofWord? reversed.reverse = some value)
    (delimits : Delimits rest) :
    Grouping.run? ⟨before, .word reversed⟩ rest
      = Grouping.run? ⟨.scalar value :: before, .between⟩ rest := by
  cases rest with
  | nil =>
    simp only [Grouping.run?, List.foldlM_nil]
    simp [Grouping.finish?, read]
  | cons unit others =>
    have ends : (isSpace unit || unit == 0x22 || (mark? unit).isSome) = true := delimits unit rfl
    rw [Grouping.run?_cons, Grouping.run?_cons, Grouping.step, Grouping.step]
    simp only [ends, if_true, read, Option.map_some]

theorem reads_word
    {word : Text}
    {value : Json}
    (whole : isWord word)
    (read : ofWord? word = some value) :
    Reads word [.scalar value] := by
  intro before rest delimits
  cases word with
  | nil => cases whole
  | cons unit others =>
    rcases isWord_cons.mp whole with ⟨first, later⟩
    simp only [isDelimiter, Bool.or_eq_false_iff, beq_eq_false_iff_ne,
      Option.isSome_eq_false_iff, Option.isNone_iff_eq_none] at first
    rcases first with ⟨⟨noSpace, noQuote⟩, noMark⟩
    have begun : Grouping.step ⟨before, .between⟩ unit = some ⟨before, .word [unit]⟩ := by
      simp [Grouping.step, Grouping.stepBetween, noSpace, noQuote, noMark]
    have reversed : ofWord? (others.reverse ++ [unit]).reverse = some value := by
      rw [List.reverse_append, List.reverse_reverse]
      exact read
    rw [List.cons_append, Grouping.run?_cons, begun, Option.bind_some,
      Grouping.run?_append (foldlM_step_word later [unit]), run?_word reversed delimits]
    rfl

/-! ## Strings -/

section

variable
    {before : List Lexeme}
    {reversed : Text}

/-- What needs no escape stands for itself. -/
theorem step_plain
    {unit : CodeUnit}
    (noQuote : unit ≠ 0x22)
    (noBackslash : unit ≠ 0x5C)
    (noControl : ¬ unit < 0x20) :
    Grouping.step ⟨before, .quoted reversed⟩ unit = some ⟨before, .quoted (unit :: reversed)⟩ := by
  simp [Grouping.step, noQuote, noBackslash, noControl]

theorem digitIn?_hexUnit
    {digit : Nat}
    (small : digit < 16) :
    (hexUnit digit).digitIn? 16 = some digit := by
  have every : ∀ digit : Fin 16, (hexUnit digit).digitIn? 16 = some digit.val := by decide
  exact every ⟨digit, small⟩

/-- Four hexadecimal digits stand for the unit with this number. -/
theorem foldlM_step_unicodeEscape
    {point : Nat}
    (small : point < 0x10000) :
    (unicodeEscape point).foldlM Grouping.step ⟨before, .quoted reversed⟩
      = some ⟨before, .quoted (point.toUInt16 :: reversed)⟩ := by
  have joined : (((0 * 16 + point / 0x1000 % 16) * 16 + point / 0x100 % 16) * 16
      + point / 0x10 % 16) * 16 + point % 16 = point := by
    omega
  have digit (number : Nat) : (hexUnit (number % 16)).digitIn? 16 = some (number % 16) :=
    digitIn?_hexUnit (Nat.mod_lt _ (by decide))
  have backslash : Grouping.step ⟨before, .quoted reversed⟩ 0x5C
      = some ⟨before, .escape reversed⟩ := rfl
  have letter : Grouping.step ⟨before, .escape reversed⟩ 0x75
      = some ⟨before, .unicode reversed 0 0⟩ := rfl
  have next (count value number : Nat) (more : count ≠ 3) :
      Grouping.step ⟨before, .unicode reversed count value⟩ (hexUnit (number % 16))
        = some ⟨before, .unicode reversed (count + 1) (value * 16 + number % 16)⟩ := by
    simp only [Grouping.step, digit, Option.map_some, if_neg more]
  have last (value number : Nat) :
      Grouping.step ⟨before, .unicode reversed 3 value⟩ (hexUnit (number % 16))
        = some ⟨before, .quoted ((value * 16 + number % 16).toUInt16 :: reversed)⟩ := by
    simp only [Grouping.step, digit, Option.map_some, if_true]
  simp only [unicodeEscape, List.foldlM_cons, List.foldlM_nil, Option.bind_eq_bind,
    Option.bind_some, backslash, letter, last, next 0 _ _ (by decide), next 1 _ _ (by decide),
    next 2 _ _ (by decide), joined]
  rfl

/-- A letter behind a backslash stands for one unit. -/
theorem foldlM_step_letter
    {letter unit : CodeUnit}
    (noUnicode : letter ≠ 0x75)
    (meant : ofEscape? letter = some unit) :
    [0x5C, letter].foldlM Grouping.step ⟨before, .quoted reversed⟩
      = some ⟨before, .quoted (unit :: reversed)⟩ := by
  simp [Grouping.step, noUnicode, meant]

/-- Units from the blank on that are neither quotes nor backslashes stand for themselves. -/
theorem step_toUInt16
    {number : Nat}
    (small : number < 0x10000)
    (noControl : 0x20 ≤ number)
    (noQuote : number ≠ 0x22)
    (noBackslash : number ≠ 0x5C) :
    Grouping.step ⟨before, .quoted reversed⟩ number.toUInt16
      = some ⟨before, .quoted (number.toUInt16 :: reversed)⟩ := by
  have value := Text.toNat_toUInt16 small
  apply step_plain
  · intro equal
    rw [equal] at value
    exact noQuote value.symm
  · intro equal
    rw [equal] at value
    exact noBackslash value.symm
  · rw [UInt16.lt_iff_toNat_lt, value]
    exact Nat.not_lt.mpr noControl

/-- An escape stands for the units of its code point. -/
theorem foldlM_step_escapePoint
    {point : Nat}
    (small : point < 0x110000) :
    (escapePoint point).foldlM Grouping.step ⟨before, .quoted reversed⟩
      = some ⟨before, .quoted ((Text.ofCodePoint point).reverse ++ reversed)⟩ := by
  unfold escapePoint
  -- Seven code points have a letter of their own.
  iterate 7
    split
    · rename_i named
      rw [named]
      exact foldlM_step_letter (by decide) rfl
  split
  · rename_i escaped
    have single : point < 0x10000 := by omega
    rw [foldlM_step_unicodeEscape single, Text.ofCodePoint, if_pos single]
    rfl
  · rename_i noQuote noBackslash _ _ _ _ _ plain
    rw [Text.ofCodePoint]
    split
    · rename_i single
      rw [List.foldlM_cons, step_toUInt16 single (by omega) noQuote noBackslash]
      rfl
    · -- Both halves of a pair are far above all units with a meaning.
      rw [List.foldlM_cons, step_toUInt16 (by omega) (by omega) (by omega) (by omega),
        Option.bind_eq_bind, Option.bind_some, List.foldlM_cons,
        step_toUInt16 (by omega) (by omega) (by omega) (by omega)]
      rfl

theorem foldlM_step_escapePoints
    {points : List Nat}
    (small : ∀ point ∈ points, point < 0x110000) :
    (points.flatMap escapePoint).foldlM Grouping.step ⟨before, .quoted reversed⟩
      = some ⟨before, .quoted ((points.flatMap Text.ofCodePoint).reverse ++ reversed)⟩ := by
  induction points generalizing reversed with
  | nil => rfl
  | cons point rest inner =>
    rcases List.forall_mem_cons.mp small with ⟨first, others⟩
    rw [List.flatMap_cons, List.foldlM_append, foldlM_step_escapePoint first,
      Option.bind_eq_bind, Option.bind_some, inner others, List.flatMap_cons, List.reverse_append,
      List.append_assoc]

end

/-- A string is read back, whatever its units are. -/
theorem readsExactly_quote (value : Text) : ReadsExactly (quote value) [.string value] := by
  intro before rest
  have inside : (value.codePoints.flatMap escapePoint).foldlM Grouping.step ⟨before, .quoted []⟩
      = some ⟨before, .quoted value.reverse⟩ := by
    rw [foldlM_step_escapePoints fun point => Text.lt_of_mem_codePoints, Text.flatMap_codePoints,
      List.append_nil]
  have opened : Grouping.step ⟨before, .between⟩ 0x22 = some ⟨before, .quoted []⟩ := rfl
  have closed : Grouping.step ⟨before, .quoted value.reverse⟩ 0x22
      = some ⟨.string value :: before, .between⟩ := by
    simp [Grouping.step]
  rw [quote, List.cons_append, Grouping.run?_cons, opened, Option.bind_some, List.append_assoc,
    Grouping.run?_append inside, List.singleton_append, Grouping.run?_cons, closed]
  rfl

end InfixCalc.Json
