import InfixCalc.Command.Script
import InfixCalc.Proofs.Evaluation.Diagnosis
import InfixCalc.Proofs.Evaluation.Grammar
import InfixCalc.Proofs.Text.Numeral
import InfixCalc.Proofs.Token.Written

/-!
# Messages are single lines

A message is made of fixed words, of numerals and operators, and of what a reader
quotes.  No reader quotes a blank, every line end is a blank, and the failures of a
machine quote nothing at all, so there is no line end in a message.
-/

namespace InfixCalc

/-! ## Lines -/

/-- A text without line ends. -/
def Text.IsLine (line : Text) : Prop :=
  ∀ unit ∈ line, Command.isLineEnd unit = false

namespace Text

instance (line : Text) : Decidable line.IsLine :=
  decidable_of_iff (line.all fun unit => !Command.isLineEnd unit) (by simp [IsLine])

theorem IsLine.append
    {first second : Text}
    (firstLine : first.IsLine)
    (secondLine : second.IsLine) :
    IsLine (first ++ second) := by
  intro unit member
  rcases List.mem_append.mp member with before | after
  · exact firstLine unit before
  · exact secondLine unit after

theorem isLine_of_noBlank
    {line : Text}
    (noBlank : ∀ unit ∈ line, unit.isBlank = false) :
    line.IsLine := by
  intro unit member
  rw [Bool.eq_false_iff]
  intro lineEnd
  have blank : unit.isBlank = true := by
    simp only [Command.isLineEnd, Bool.or_eq_true, beq_iff_eq] at lineEnd
    rcases lineEnd with ((rfl | rfl) | rfl) | rfl <;> rfl
  rw [noBlank unit member] at blank
  cases blank

theorem isLine_numeral (number : Nat) : (numeral number).IsLine :=
  isLine_of_noBlank fun _ member => CodeUnit.isBlank_of_isDigit (isDigit_of_mem_numeral member)

end Text

theorem Operator.isLine_toText (operator : Operator) : operator.toText.IsLine := by
  cases operator <;> decide

theorem FailureCode.isLine_name (code : FailureCode) : code.name.IsLine := by
  cases code <;> decide

/-! ## What is quoted -/

/-- The part of an expression that a failure quotes. -/
def Failure.quoted : Failure → Text
  | unrecognizedToken run _ => run
  | unexpectedUnit unit _ => [unit]
  | _ => []

/-- What stops the scan, if anything, quotes no blank. -/
def Scan.QuotesNoBlank (scan : Scan) : Prop :=
  ∀ problem, scan.failure = some problem → ∀ unit ∈ problem.quoted, unit.isBlank = false

theorem Lexer.quotesNoBlank_ofRuns
    (position : Nat)
    (text : Text) :
    (ofRuns (runs position text)).QuotesNoBlank := by
  fun_induction runs position text with
  | case1 position =>
    rintro problem ⟨⟩
  | case2 position unit rest blank inner => exact inner
  | case3 position unit rest notBlank tail inner =>
    unfold ofRuns
    split
    · exact inner
    · rintro problem ⟨⟩
      refine List.forall_mem_cons.mpr ⟨by simpa using notBlank, ?_⟩
      intro later member
      simpa using List.all_eq_true.mp List.all_takeWhile later member

theorem Lexer.quotesNoBlank_boundaryFrom
    (position : Nat)
    (text : Text) :
    (boundaryFrom position text).QuotesNoBlank := by
  fun_induction boundaryFrom position text with
  | case1 position =>
    rintro problem ⟨⟩
  | case2 position unit rest blank inner => exact inner
  | case3 position unit rest notBlank lexeme symbol inner => exact inner
  | case4 position unit rest notBlank noSymbol literal noLiteral =>
    rintro problem ⟨⟩
    exact List.forall_mem_singleton.mpr (by simpa using notBlank)
  | case5 position unit rest notBlank noSymbol literal after nonempty point =>
    rintro problem ⟨⟩
    exact List.forall_mem_singleton.mpr rfl
  | case6 position unit rest notBlank noSymbol literal after nonempty noPoint inner => exact inner

theorem LexerMode.quotesNoBlank_scan
    (mode : LexerMode)
    (text : Text) :
    (mode.scan text).QuotesNoBlank := by
  cases mode with
  | whitespace => exact Lexer.quotesNoBlank_ofRuns 0 text
  | boundary => exact Lexer.quotesNoBlank_boundaryFrom 0 text

/-- A machine, which knows tokens only, quotes nothing. -/
theorem Machine.quoted_of_justified
    {tokens : List Token}
    {problem : Failure}
    (justified : Justified tokens problem) :
    problem.quoted = [] := by
  cases problem with
  | unrecognizedToken run position => exact justified.elim
  | unexpectedUnit unit position => exact justified.elim
  | _ => rfl

theorem noBlank_quoted_of_evaluate
    {context : Context}
    {mode : LexerMode}
    {expression : Text}
    {problem : Failure}
    (failed : evaluate context mode expression = .error problem) :
    ∀ unit ∈ problem.quoted, unit.isBlank = false := by
  cases stopped : (mode.scan expression).failure with
  | some other =>
    rw [evaluate_of_scan_failure stopped] at failed
    cases failed
    exact mode.quotesNoBlank_scan expression problem stopped
  | none =>
    have readable : mode.scan expression = ⟨(mode.scan expression).tokens, none⟩ := by
      rw [← stopped]
    rw [Machine.quoted_of_justified (justified_of_evaluate_error readable failed)]
    nofun

/-! ## Messages -/

namespace Failure

theorem isLine_located
    {description : Text}
    (line : description.IsLine)
    (position : Nat) :
    (located description position).IsLine :=
  (line.append (by decide)).append (Text.isLine_numeral position)

/-- Words around a line are a line. -/
theorem isLine_quoting
    {before quoted after : Text}
    (beforeLine : before.IsLine)
    (line : quoted.IsLine)
    (afterLine : after.IsLine) :
    (before ++ quoted ++ after).IsLine :=
  (beforeLine.append line).append afterLine

/-- A message has a line end only where one is quoted. -/
theorem isLine_message
    {problem : Failure}
    (line : problem.quoted.IsLine) :
    problem.message.IsLine := by
  cases problem with
  | unrecognizedToken run position =>
    exact isLine_located (isLine_quoting (by decide) line (by decide)) position
  | unexpectedUnit unit position =>
    exact isLine_located (isLine_quoting (by decide) line (by decide)) position
  | unmatchedClose position => exact isLine_located (by decide) position
  | unclosedOpen position => exact isLine_located (by decide) position
  | emptyGroup position => exact isLine_located (by decide) position
  | missingLeft operator position =>
    have placed : (located (text "operator '" ++ operator.toText ++ text "'") position).IsLine :=
      isLine_located (isLine_quoting (by decide) operator.isLine_toText (by decide)) position
    exact placed.append (by decide)
  | missingRight operator position =>
    have placed : (located (text "operator '" ++ operator.toText ++ text "'") position).IsLine :=
      isLine_located (isLine_quoting (by decide) operator.isLine_toText (by decide)) position
    exact placed.append (by decide)
  | notEnoughOperands operator position =>
    exact isLine_located (isLine_quoting (by decide) operator.isLine_toText (by decide)) position
  | divisionByZero position => exact isLine_located (by decide) position
  | leftover count => exact (Text.isLine_numeral count).append (by decide)
  | emptyExpression => decide

end Failure

theorem isLine_message_of_evaluate
    {context : Context}
    {mode : LexerMode}
    {expression : Text}
    {problem : Failure}
    (failed : evaluate context mode expression = .error problem) :
    problem.message.IsLine :=
  problem.isLine_message (Text.isLine_of_noBlank (noBlank_quoted_of_evaluate failed))

end InfixCalc
