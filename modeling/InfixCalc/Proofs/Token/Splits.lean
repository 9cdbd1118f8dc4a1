import InfixCalc.Proofs.Decimal.Plain
import InfixCalc.Proofs.Token.Runs

/-!
# Splits into lexemes

What the boundary reader accepts can be said without it: the text is split into blanks,
symbols and literals behind which neither a digit nor a point follows.  There is at
most one such split, and its tokens are what the reader finds.  If there is none, the
reader stops behind tokens and blanks, at a place where no lexeme begins, or behind one
more literal that a point follows.

Together with what is known of runs, this says for either reader that nothing of a
text is lost, and where the reading ends.
-/

namespace InfixCalc

/-! ## Splits -/

namespace Literal

/-- No digit follows the longest literal that a text begins with. -/
theorem drop_begins_no_digit (text : Text) :
    ∀ unit ∈ (drop text).head?, unit.isDigit = false := by
  have stopped (text : Text) :
      ∀ unit ∈ (text.dropWhile CodeUnit.isDigit).head?, unit.isDigit = false := by
    intro unit next
    have first := List.head?_dropWhile_not CodeUnit.isDigit text
    rw [next] at first
    simpa using first
  have whole := stopped text
  rw [drop]
  generalize text.dropWhile CodeUnit.isDigit = rest at whole ⊢
  cases rest with
  | nil => exact whole
  | cons unit rest =>
    rw [dropFraction]
    split
    · exact stopped rest
    · exact whole

/-- A text that begins with a literal has a longest one. -/
theorem Written.take_ne_nil
    {literal : Text}
    (written : Written literal)
    (after : Text) :
    take (literal ++ after) ≠ [] := by
  cases written with
  | whole digit nonempty =>
    cases literal with
    | nil => exact (nonempty rfl).elim
    | cons unit rest =>
      have first := digit unit List.mem_cons_self
      simp [take, first]
  | @fraction whole digits wholeDigit digit nonempty =>
    cases whole with
    | nil =>
      cases digits with
      | nil => exact (nonempty rfl).elim
      | cons unit rest =>
        have first := digit unit List.mem_cons_self
        have point : CodeUnit.isDigit 0x2E = false := rfl
        simp [take, takeFraction, first, point]
    | cons unit rest =>
      have first := wholeDigit unit List.mem_cons_self
      simp [take, first]

end Literal

/--
From a position on, the text is split into blanks, symbols and literals.  No literal has
a digit or a point right behind it.
-/
inductive Splits : Nat → Text → List Token → Prop where
  | nil
      {position : Nat} :
      Splits position [] []
  | blank
      {position : Nat}
      {unit : CodeUnit}
      {text : Text}
      {tokens : List Token} :
      unit.isBlank →
      Splits (position + 1) text tokens →
      Splits position (unit :: text) tokens
  | symbol
      {position : Nat}
      {unit : CodeUnit}
      {lexeme : Lexeme}
      {text : Text}
      {tokens : List Token} :
      (unit, lexeme) ∈ Lexeme.symbols →
      Splits (position + 1) text tokens →
      Splits position (unit :: text) (⟨lexeme, position⟩ :: tokens)
  | literal
      {position : Nat}
      {literal text : Text}
      {tokens : List Token} :
      Literal.Written literal →
      (∀ unit ∈ text.head?, unit.endsLiteral) →
      Splits (position + literal.length) text tokens →
      Splits position (literal ++ text)
        (⟨.number (Literal.value literal) literal, position⟩ :: tokens)

namespace Splits

variable
    {position : Nat}
    {text : Text}
    {tokens : List Token}

theorem layout
    (splits : Splits position text tokens) :
    Layout position text tokens (position + text.length) [] := by
  induction splits with
  | nil => exact .done
  | @blank position unit text tokens blank _ inner =>
    rw [List.length_cons, Nat.add_comm text.length, ← Nat.add_assoc]
    exact .blank blank inner
  | @symbol position unit lexeme text tokens member _ inner =>
    rw [List.length_cons, Nat.add_comm text.length, ← Nat.add_assoc]
    exact .lexeme (.symbol member) inner
  | @literal position literal text tokens written _ _ inner =>
    rw [List.length_append, ← Nat.add_assoc]
    exact .lexeme (.number written) inner

/-- The boundary reader finds a split if there is one. -/
theorem boundaryFrom_eq
    (splits : Splits position text tokens) :
    Lexer.boundaryFrom position text = ⟨tokens, none⟩ := by
  induction splits with
  | nil => exact Lexer.boundaryFrom_nil
  | blank blank _ inner => rw [Lexer.boundaryFrom_blank blank, inner]
  | symbol member _ inner =>
    rw [Lexer.boundaryFrom_symbol member, inner]
    rfl
  | literal written ends _ inner =>
    rw [Lexer.boundaryFrom_append (.number written) ends, inner]
    rfl

end Splits

namespace Lexer

/-- What the boundary reader reads to the end is split into its tokens. -/
theorem splits_boundaryFrom
    {position : Nat}
    {text : Text}
    (readToEnd : (boundaryFrom position text).failure = none) :
    Splits position text (boundaryFrom position text).tokens := by
  fun_induction boundaryFrom position text with
  | case1 position => exact .nil
  | case2 position unit rest blank inner => exact .blank blank (inner readToEnd)
  | case3 position unit rest notBlank lexeme symbol inner =>
    exact .symbol (Lexeme.ofSymbol?_eq_some_iff.mp symbol) (inner readToEnd)
  | case4 position unit rest notBlank noSymbol literal noLiteral => cases readToEnd
  | case5 position unit rest notBlank noSymbol literal follows nonempty point => cases readToEnd
  | case6 position unit rest notBlank noSymbol literal follows nonempty noPoint inner =>
    have ends : ∀ unit ∈ follows.head?, unit.endsLiteral := by
      intro next isNext
      have noDigit := Literal.drop_begins_no_digit _ next isNext
      have different : next ≠ 0x2E := by
        rintro rfl
        exact noPoint isNext
      simp [CodeUnit.endsLiteral, noDigit, different]
    rw [← Literal.take_append_drop (unit :: rest)]
    exact .literal (Literal.written_take nonempty) ends (inner readToEnd)

/--
The boundary reader stops behind blanks and tokens, where neither of them begins, or
behind one more literal at a point.
-/
theorem boundaryFrom_stops
    {position : Nat}
    {text : Text}
    {problem : Failure}
    (failed : (boundaryFrom position text).failure = some problem) :
    ∃ stop literal unit rest,
      Layout position text (boundaryFrom position text).tokens stop (literal ++ unit :: rest) ∧
        problem = .unexpectedUnit unit (stop + literal.length) ∧
        (literal = [] ∧ unit.isBlank = false ∧
            (∀ (lexeme : Lexeme) (run : Text), lexeme.Written run → ¬ run <+: unit :: rest) ∨
          Literal.Written literal ∧ unit = 0x2E) := by
  fun_induction boundaryFrom position text with
  | case1 position => cases failed
  | case2 position unit rest blank inner =>
    rcases inner failed with ⟨stop, literal, other, unread, layout, ending⟩
    exact ⟨stop, literal, other, unread, .blank blank layout, ending⟩
  | case3 position unit rest notBlank lexeme symbol inner =>
    rcases inner failed with ⟨stop, literal, other, unread, layout, ending⟩
    have written := Lexeme.Written.symbol (Lexeme.ofSymbol?_eq_some_iff.mp symbol)
    exact ⟨stop, literal, other, unread, .lexeme written layout, ending⟩
  | case4 position unit rest notBlank noSymbol literal noLiteral =>
    cases failed
    refine ⟨position, [], unit, rest, .done, rfl, .inl ⟨rfl, by simpa using notBlank, ?_⟩⟩
    rintro lexeme run written ⟨after, same⟩
    cases written with
    | number isLiteral =>
      apply isLiteral.take_ne_nil after
      rwa [same]
    | symbol member =>
      cases same
      rw [Lexeme.ofSymbol?_eq_some_iff.mpr member] at noSymbol
      cases noSymbol
  | case5 position unit rest notBlank noSymbol literal follows nonempty point =>
    cases failed
    rcases List.head?_eq_some_iff.mp point with ⟨unread, same⟩
    refine ⟨position, literal, 0x2E, unread, ?_, rfl, .inr ⟨Literal.written_take nonempty, rfl⟩⟩
    rw [← same, Literal.take_append_drop]
    exact .done
  | case6 position unit rest notBlank noSymbol literal follows nonempty noPoint inner =>
    rcases inner failed with ⟨stop, other, blamed, unread, layout, ending⟩
    refine ⟨stop, other, blamed, unread, ?_, ending⟩
    have laid := layout.lexeme (.number (Literal.written_take nonempty))
    rwa [Literal.take_append_drop] at laid

end Lexer

/-! ## Nothing is lost -/

namespace LexerMode

/-- Either reader lays out its tokens from the beginning of the text. -/
theorem exists_layout_scan
    (mode : LexerMode)
    (expression : Text) :
    ∃ stop rest, Layout 0 expression (mode.scan expression).tokens stop rest := by
  cases mode with
  | whitespace =>
    rcases Lexer.layout_ofRuns 0 expression with ⟨stop, rest, layout, _⟩
    exact ⟨stop, rest, layout⟩
  | boundary =>
    cases failure : (boundary.scan expression).failure with
    | none => exact ⟨_, _, (Lexer.splits_boundaryFrom failure).layout⟩
    | some problem =>
      rcases Lexer.boundaryFrom_stops failure with ⟨stop, literal, unit, rest, layout, _⟩
      exact ⟨stop, _, layout⟩

/-- The numbers among the tokens are those that their texts denote. -/
theorem denotes_scan
    (mode : LexerMode)
    (expression : Text) :
    ∀ token ∈ (mode.scan expression).tokens, ∀ value written,
      token.lexeme = .number value written →
        value.isFinite ∧ Literal.Denotes written value.toRat := by
  intro token member value written number
  have isWritten := mode.written_scan expression token member
  rw [Token.toText, number] at isWritten
  cases isWritten with
  | number literal => exact ⟨rfl, literal.denotes⟩
  | symbol known =>
    exact (Lexeme.ofSymbol?_ne_number (Lexeme.ofSymbol?_eq_some_iff.mpr known) _ _ rfl).elim

end LexerMode

/--
Reading loses nothing, and it stops for a reason.  The tokens of either reader stand in
the text one after the other, with blanks between them, and numbers have the exact
value of what was written.

The whitespace reader reads the text to its end just if every maximal run between
blanks is a lexeme; else it lays out what stands in front of the first run that is
none, and quotes that run at its place.

The boundary reader reads the text to its end just if it can be split into blanks,
symbols and literals that no digit and no point follows, and its tokens are those of
the split, so that there is only one.  Else it stops behind blanks and its tokens:
there neither a blank nor a lexeme begins, or one more literal stands there with a point
behind it, which is blamed.
-/
theorem reading_lossless (expression : Text) :
    let words := LexerMode.whitespace.scan expression
    let units := LexerMode.boundary.scan expression
    (∀ mode : LexerMode,
        Spans expression (mode.scan expression).tokens ∧
          ∀ token ∈ (mode.scan expression).tokens, ∀ value written,
            token.lexeme = .number value written →
              value.isFinite ∧ Literal.Denotes written value.toRat) ∧
      ((words.failure = none ↔
          ∀ before run after,
            expression = before ++ (run ++ after) → MaximalRun before run after →
              ∃ lexeme : Lexeme, lexeme.Written run) ∧
        (words.failure = none → Layout 0 expression words.tokens expression.length []) ∧
        ∀ problem, words.failure = some problem →
          ∃ before run after,
            expression = before ++ (run ++ after) ∧
              MaximalRun before run after ∧
              (∀ lexeme : Lexeme, ¬ lexeme.Written run) ∧
              (∀ earlier other later,
                expression = earlier ++ (other ++ later) → MaximalRun earlier other later →
                  earlier.length < before.length → ∃ lexeme : Lexeme, lexeme.Written other) ∧
              Layout 0 expression words.tokens before.length (run ++ after) ∧
              problem = .unrecognizedToken run before.length ∧
              problem.message
                = Failure.located (text "unrecognized token '" ++ run ++ text "'")
                    before.length) ∧
      (units.failure = none ↔ ∃ tokens, Splits 0 expression tokens) ∧
      (∀ tokens, Splits 0 expression tokens → units.tokens = tokens) ∧
      ∀ problem, units.failure = some problem →
        ∃ stop literal unit rest,
          Layout 0 expression units.tokens stop (literal ++ unit :: rest) ∧
            problem = .unexpectedUnit unit (stop + literal.length) ∧
            (literal = [] ∧ unit.isBlank = false ∧
                (∀ (lexeme : Lexeme) (run : Text), lexeme.Written run → ¬ run <+: unit :: rest) ∨
              Literal.Written literal ∧ unit = 0x2E) := by
  intro words units
  refine ⟨?_, ⟨?_, ?_, ?_⟩, ?_, ?_, ?_⟩
  · intro mode
    rcases mode.exists_layout_scan expression with ⟨stop, rest, layout⟩
    exact ⟨layout.spans, mode.denotes_scan expression⟩
  · rcases Lexer.whitespace_cases expression with
      ⟨none, _, each⟩ | ⟨before, run, after, split, maximal, noLexeme, _, _, failed⟩
    · exact iff_of_true none each
    · apply iff_of_false
      · intro none
        cases none.symm.trans failed
      · intro each
        rcases each before run after split maximal with ⟨lexeme, written⟩
        exact noLexeme lexeme written
  · intro none
    rcases Lexer.whitespace_cases expression with ⟨_, layout, _⟩ | ⟨_, _, _, _, _, _, _, _, failed⟩
    · exact layout
    · cases none.symm.trans failed
  · intro problem stopped
    rcases Lexer.whitespace_cases expression with
      ⟨none, _⟩ | ⟨before, run, after, split, maximal, noLexeme, earlier, layout, failed⟩
    · cases none.symm.trans stopped
    · cases Option.some.inj (stopped.symm.trans failed)
      exact ⟨before, run, after, split, maximal, noLexeme, earlier, layout, rfl, rfl⟩
  · constructor
    · intro none
      exact ⟨units.tokens, Lexer.splits_boundaryFrom none⟩
    · rintro ⟨tokens, splits⟩
      exact congrArg Scan.failure splits.boundaryFrom_eq
  · intro tokens splits
    exact congrArg Scan.tokens splits.boundaryFrom_eq
  · intro problem stopped
    exact Lexer.boundaryFrom_stops stopped

end InfixCalc
