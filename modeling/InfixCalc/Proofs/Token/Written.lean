import InfixCalc.Token.Lexer

/-!
# How lexemes are written

A literal is a run of digits, or a point with a run behind it and perhaps one in
front of it; every other lexeme is a single unit.  No lexeme holds a blank, and
a literal ends where neither a digit nor a point follows.  So whether a run
between blanks is a lexeme can be told from the run alone, and that is what both
readers rely on.
-/

namespace InfixCalc

namespace CodeUnit

/-- The units that write the digits from zero to nine. -/
def digits : List CodeUnit :=
  [0x30, 0x31, 0x32, 0x33, 0x34, 0x35, 0x36, 0x37, 0x38, 0x39]

theorem isDigit_iff_mem
    {unit : CodeUnit} :
    unit.isDigit ↔ unit ∈ digits := by
  constructor
  · intro digit
    simp only [isDigit, Bool.and_eq_true, decide_eq_true_eq, UInt16.le_iff_toNat_le] at digit
    simp only [UInt16.reduceToNat] at digit
    simp only [digits, List.mem_cons, List.not_mem_nil, ← UInt16.toNat_inj, UInt16.reduceToNat]
    omega
  · have every : digits.all isDigit := by decide
    exact List.all_eq_true.mp every unit

theorem isBlank_of_isDigit
    {unit : CodeUnit}
    (digit : unit.isDigit) :
    unit.isBlank = false := by
  have none : digits.all fun unit => !unit.isBlank := by decide
  simpa using List.all_eq_true.mp none unit (isDigit_iff_mem.mp digit)

/-- Whether a literal ends where the unit comes next. -/
def endsLiteral (unit : CodeUnit) : Bool :=
  !unit.isDigit && unit != 0x2E

theorem endsLiteral_of_isBlank
    {unit : CodeUnit}
    (blank : unit.isBlank) :
    unit.endsLiteral := by
  cases digit : unit.isDigit with
  | true =>
    rw [isBlank_of_isDigit digit] at blank
    cases blank
  | false =>
    by_cases point : unit = 0x2E
    · rw [point] at blank
      cases blank
    · simp [endsLiteral, digit, point]

end CodeUnit

/-! ## Literals -/

namespace Literal

/-- A run of digits, or a point with a run behind it and perhaps one in front of it. -/
inductive Written : Text → Prop where
  | whole
      {digits : Text} :
      (∀ unit ∈ digits, unit.isDigit) →
      digits ≠ [] →
      Written digits
  | fraction
      {whole digits : Text} :
      (∀ unit ∈ whole, unit.isDigit) →
      (∀ unit ∈ digits, unit.isDigit) →
      digits ≠ [] →
      Written (whole ++ 0x2E :: digits)

section

variable
    {digits after : Text}
    (digit : ∀ unit ∈ digits, unit.isDigit)
    (stops : ∀ unit ∈ after.head?, unit.isDigit = false)

include digit stops

theorem takeWhile_digits :
    (digits ++ after).takeWhile CodeUnit.isDigit = digits := by
  rw [List.takeWhile_append_of_pos digit]
  cases after with
  | nil => simp
  | cons unit rest => simp [stops unit rfl]

theorem dropWhile_digits :
    (digits ++ after).dropWhile CodeUnit.isDigit = after := by
  rw [List.dropWhile_append_of_pos digit]
  cases after with
  | nil => simp
  | cons unit rest => simp [stops unit rfl]

end

theorem isDigit_of_endsLiteral
    {after : Text}
    (ends : ∀ unit ∈ after.head?, unit.endsLiteral) :
    ∀ unit ∈ after.head?, unit.isDigit = false := by
  intro unit next
  have both := ends unit next
  simp only [CodeUnit.endsLiteral, Bool.and_eq_true, Bool.not_eq_true'] at both
  exact both.1

/-- Without a point there is no fraction. -/
theorem fraction_of_endsLiteral
    {after : Text}
    (ends : ∀ unit ∈ after.head?, unit.endsLiteral) :
    takeFraction after = [] ∧ dropFraction after = after := by
  cases after with
  | nil => exact ⟨rfl, rfl⟩
  | cons unit rest =>
    have both := ends unit rfl
    simp only [CodeUnit.endsLiteral, Bool.and_eq_true, bne_iff_ne] at both
    simp [takeFraction, dropFraction, both.2]

/-- A literal is split off as a whole where it ends. -/
theorem Written.split
    {literal after : Text}
    (written : Written literal)
    (ends : ∀ unit ∈ after.head?, unit.endsLiteral) :
    take (literal ++ after) = literal ∧ drop (literal ++ after) = after := by
  have stops := isDigit_of_endsLiteral ends
  cases written with
  | whole digit _ =>
    rcases fraction_of_endsLiteral ends with ⟨taken, dropped⟩
    rw [take, drop, takeWhile_digits digit stops, dropWhile_digits digit stops, taken, dropped,
      List.append_nil]
    exact ⟨rfl, rfl⟩
  | @fraction whole digits wholeDigit digit nonempty =>
    have point : ∀ unit ∈ (0x2E :: (digits ++ after)).head?, unit.isDigit = false := by
      rintro unit ⟨⟩
      rfl
    have someDigits : ((digits ++ after).takeWhile CodeUnit.isDigit).isEmpty = false := by
      rw [takeWhile_digits digit stops]
      simpa using nonempty
    rw [take, drop, List.append_assoc, List.cons_append, takeWhile_digits wholeDigit point,
      dropWhile_digits wholeDigit point, takeFraction, dropFraction]
    simp only [someDigits, BEq.rfl, Bool.not_false, Bool.and_self, if_true]
    rw [takeWhile_digits digit stops, dropWhile_digits digit stops]
    exact ⟨rfl, rfl⟩

/-- What is split off is a literal, unless it is nothing. -/
theorem written_take
    {text : Text}
    (nonempty : take text ≠ []) :
    Written (take text) := by
  have digit (text : Text) : ∀ unit ∈ text.takeWhile CodeUnit.isDigit, unit.isDigit :=
    List.all_eq_true.mp List.all_takeWhile
  have wholeDigit := digit text
  rw [take] at nonempty ⊢
  generalize text.takeWhile CodeUnit.isDigit = whole at nonempty wholeDigit ⊢
  generalize text.dropWhile CodeUnit.isDigit = rest at nonempty ⊢
  cases rest with
  | nil =>
    rw [takeFraction, List.append_nil] at nonempty ⊢
    exact .whole wholeDigit nonempty
  | cons unit rest =>
    rw [takeFraction] at nonempty ⊢
    split
    · rename_i pointed
      simp only [Bool.and_eq_true, beq_iff_eq, Bool.not_eq_true', List.isEmpty_eq_false_iff]
        at pointed
      rw [pointed.1]
      exact .fraction wholeDigit (digit rest) pointed.2
    · rename_i notPointed
      rw [if_neg notPointed, List.append_nil] at nonempty
      rw [List.append_nil]
      exact .whole wholeDigit nonempty

theorem Written.ne_nil
    {literal : Text}
    (written : Written literal) :
    literal ≠ [] := by
  cases written with
  | whole _ nonempty => exact nonempty
  | fraction _ _ _ => simp

theorem isLiteral_iff
    {text : Text} :
    isLiteral text ↔ Written text := by
  simp only [isLiteral, Bool.and_eq_true, Bool.not_eq_true', List.isEmpty_eq_false_iff,
    List.isEmpty_iff]
  constructor
  · rintro ⟨nonempty, nothingLeft⟩
    have whole := take_append_drop text
    rw [nothingLeft, List.append_nil] at whole
    rw [← whole]
    apply written_take
    rwa [whole]
  · intro written
    have split : take (text ++ []) = text ∧ drop (text ++ []) = [] := written.split (by simp)
    rw [List.append_nil] at split
    exact ⟨written.ne_nil, split.2⟩

/-- A literal begins with a digit or a point. -/
theorem Written.head
    {unit : CodeUnit}
    {rest : Text}
    (written : Written (unit :: rest)) :
    unit ∈ 0x2E :: CodeUnit.digits := by
  generalize equal : unit :: rest = literal at written
  cases written with
  | whole digit _ =>
    rw [← equal] at digit
    exact List.mem_cons_of_mem _ (CodeUnit.isDigit_iff_mem.mp (digit unit List.mem_cons_self))
  | @fraction whole digits digit _ _ =>
    cases whole with
    | nil =>
      cases equal
      exact List.mem_cons_self
    | cons first others =>
      cases equal
      exact List.mem_cons_of_mem _ (CodeUnit.isDigit_iff_mem.mp (digit unit List.mem_cons_self))

theorem Written.no_blank
    {literal : Text}
    (written : Written literal) :
    ∀ unit ∈ literal, unit.isBlank = false := by
  intro unit member
  cases written with
  | whole digit _ => exact CodeUnit.isBlank_of_isDigit (digit unit member)
  | fraction wholeDigit digit _ =>
    rcases List.mem_append.mp member with whole | later
    · exact CodeUnit.isBlank_of_isDigit (wholeDigit unit whole)
    · rcases List.mem_cons.mp later with rfl | fraction
      · decide
      · exact CodeUnit.isBlank_of_isDigit (digit unit fraction)

end Literal

/-! ## Symbols -/

namespace Lexeme

/-- The units that are lexemes by themselves, with the lexemes that they are. -/
def symbols : List (CodeUnit × Lexeme) :=
  [(0x28, openGroup), (0x29, closeGroup), (0x2B, operator .add), (0x2D, operator .sub),
    (0x2A, operator .mul), (0x2F, operator .div)]

theorem ofSymbol?_eq_some_iff
    {unit : CodeUnit}
    {lexeme : Lexeme} :
    ofSymbol? unit = some lexeme ↔ (unit, lexeme) ∈ symbols := by
  constructor
  · intro read
    unfold ofSymbol? at read
    split at read
    · rename_i opening
      rw [eq_of_beq opening, ← Option.some.inj read]
      decide
    · split at read
      · rename_i closing
        rw [eq_of_beq closing, ← Option.some.inj read]
        decide
      · rcases Option.map_eq_some_iff.mp read with ⟨symbol, found, rfl⟩
        have same := List.find?_some found
        rw [← eq_of_beq same]
        cases symbol <;> decide
  · have all : ∀ pair ∈ symbols, ofSymbol? pair.1 = some pair.2 := by decide
    intro member
    exact all _ member

theorem ofSymbol?_eq_none_of_mem
    {unit : CodeUnit}
    (begins : unit ∈ 0x2E :: CodeUnit.digits) :
    ofSymbol? unit = none := by
  have all : (0x2E :: CodeUnit.digits).all fun unit => (ofSymbol? unit).isNone := by decide
  exact Option.isNone_iff_eq_none.mp (List.all_eq_true.mp all unit begins)

/-- A symbol is written as its unit, which is no blank and begins no literal. -/
theorem toText_of_mem_symbols
    {unit : CodeUnit}
    {lexeme : Lexeme}
    (member : (unit, lexeme) ∈ symbols) :
    lexeme.toText = [unit] ∧ unit.isBlank = false ∧ unit ∉ 0x2E :: CodeUnit.digits := by
  have all : ∀ pair ∈ symbols,
      pair.2.toText = [pair.1] ∧ pair.1.isBlank = false ∧ pair.1 ∉ 0x2E :: CodeUnit.digits := by
    decide
  exact all _ member

/-- What a run between blanks may be read as. -/
inductive Written : Lexeme → Text → Prop where
  | number
      {literal : Text} :
      Literal.Written literal →
      Written (.number (Literal.value literal) literal) literal
  | symbol
      {unit : CodeUnit}
      {lexeme : Lexeme} :
      (unit, lexeme) ∈ symbols →
      Written lexeme [unit]

namespace Written

variable
    {lexeme : Lexeme}
    {run : Text}

theorem ne_nil (written : lexeme.Written run) : run ≠ [] := by
  cases written with
  | number literal => exact literal.ne_nil
  | symbol _ => simp

/-- Every lexeme keeps the text that it was written as. -/
theorem toText_eq (written : lexeme.Written run) : lexeme.toText = run := by
  cases written with
  | number _ => rfl
  | symbol member => exact (toText_of_mem_symbols member).1

/-- Only literals are numbers, and they have the value of what is written. -/
theorem of_number
    {value : Decimal}
    {literal : Text}
    (written : (Lexeme.number value literal).Written run) :
    value = Literal.value literal ∧ Literal.Written literal := by
  cases written with
  | number isLiteral => exact ⟨rfl, isLiteral⟩
  | symbol member => simp [symbols] at member

theorem no_blank (written : lexeme.Written run) : ∀ unit ∈ run, unit.isBlank = false := by
  cases written with
  | number literal => exact literal.no_blank
  | symbol member =>
    intro unit only
    rw [List.mem_singleton.mp only]
    exact (toText_of_mem_symbols member).2.1

end Written

theorem lexemeOfRun?_eq_some_iff
    {run : Text}
    {lexeme : Lexeme} :
    Lexer.lexemeOfRun? run = some lexeme ↔ lexeme.Written run := by
  constructor
  · intro read
    unfold Lexer.lexemeOfRun? at read
    split at read
    · rename_i literal
      rw [← Option.some.inj read]
      exact .number (Literal.isLiteral_iff.mp literal)
    · split at read
      · exact .symbol (ofSymbol?_eq_some_iff.mp read)
      · cases read
  · intro written
    unfold Lexer.lexemeOfRun?
    cases written with
    | number literal => rw [if_pos (Literal.isLiteral_iff.mpr literal)]
    | @symbol unit lexeme member =>
      have noLiteral : ¬ Literal.isLiteral [unit] := fun literal =>
        (toText_of_mem_symbols member).2.2 (Literal.isLiteral_iff.mp literal).head
      rw [if_neg noLiteral]
      exact ofSymbol?_eq_some_iff.mpr member

end Lexeme

end InfixCalc
