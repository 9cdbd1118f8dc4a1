import InfixCalc.Proofs.Evaluation.Diagnosis
import InfixCalc.Proofs.Evaluation.Explanation
import InfixCalc.Proofs.Machine.Correspondence
import InfixCalc.Proofs.Token.Readers

/-!
# Evaluation with either reader

What the whitespace reader can read, the boundary reader reads in the same way,
so that nothing that follows can tell which of them was used.  The other way
round, what the boundary reader can read may be written down again with single
blanks between the tokens; then the whitespace reader can read it as well, and
only positions have changed.
-/

namespace InfixCalc

/-- What follows the reading depends on what was read, not on the reader. -/
theorem Options.eq_of_scan_eq
    {expression : Text}
    (same : LexerMode.boundary.scan expression = LexerMode.whitespace.scan expression)
    (context : Except ArgumentError Context) :
    Options.evaluate ⟨.boundary, context⟩ expression
        = Options.evaluate ⟨.whitespace, context⟩ expression ∧
      Options.explain ⟨.boundary, context⟩ expression
        = Options.explain ⟨.whitespace, context⟩ expression := by
  cases context with
  | error problem =>
    simp only [Options.evaluate, Options.explain, same]
    exact ⟨trivial, trivial⟩
  | ok context =>
    simp only [Options.evaluate, Options.explain, InfixCalc.evaluate, InfixCalc.explain, same]
    exact ⟨trivial, trivial⟩

/--
The two readers agree.  The tokens before the whitespace reader stops are the
first tokens of the boundary reader.  If it reads to the end, so does the boundary
reader, with the same tokens, and evaluation and explanation are the same under
all options, even those that cannot be computed with.  Where the boundary reader
stops, the whitespace reader has stopped, there or before.
-/
theorem readers_agree (expression : Text) :
    let words := LexerMode.whitespace.scan expression
    let units := LexerMode.boundary.scan expression
    words.tokens <+: units.tokens ∧
      (words.failure = none →
        units = words ∧
          ∀ context,
            Options.evaluate ⟨.boundary, context⟩ expression
                = Options.evaluate ⟨.whitespace, context⟩ expression ∧
              Options.explain ⟨.boundary, context⟩ expression
                = Options.explain ⟨.whitespace, context⟩ expression) ∧
      ∀ problem, units.failure = some problem →
        ∃ position earlier before,
          problem.position? = some position ∧
            words.failure = some earlier ∧
            earlier.position? = some before ∧
            before ≤ position := by
  intro words units
  have within : words.Within units := LexerMode.within_scan expression
  refine ⟨within.tokens, ?_, ?_⟩
  · intro readToEnd
    have same := within.whole readToEnd
    exact ⟨same, Options.eq_of_scan_eq same⟩
  · intro problem failed
    have inside : units.Inside 0 expression.length := LexerMode.boundary.inside_scan expression
    rcases inside.failure problem failed with ⟨position, blamed, _, _⟩
    rcases within.stops problem position failed blamed with ⟨earlier, before, stopped⟩
    exact ⟨position, earlier, before, blamed, stopped⟩

/--
Tokens that the boundary reader has found can be written down with single blanks
between them.  The whitespace reader reads the same lexemes back; the values are
the same, or the failures are of one kind and blame the tokens at one index, if
any; and the steps of the explanations differ in positions only.  Options without
a context are refused for the one text as for the other.
-/
theorem respacing_preserves_meaning
    (context : Context)
    (expression : Text)
    (tokens : List Token)
    (readable : LexerMode.boundary.scan expression = ⟨tokens, none⟩) :
    let respaced := Text.join (text " ") (tokens.map Token.toText)
    ∃ others,
      LexerMode.whitespace.scan respaced = ⟨others, none⟩ ∧
        others.map Token.lexeme = tokens.map Token.lexeme ∧
        Corresponds tokens others
          (evaluate context .boundary expression)
          (evaluate context .whitespace respaced) ∧
        (explain context .boundary expression).steps.map TraceStep.unplaced
          = (explain context .whitespace respaced).steps.map TraceStep.unplaced ∧
        ∀ problem,
          Options.evaluate ⟨.boundary, .error problem⟩ expression = .error problem ∧
            Options.evaluate ⟨.whitespace, .error problem⟩ respaced = .error problem ∧
            Options.explain ⟨.boundary, .error problem⟩ expression = .error problem ∧
            Options.explain ⟨.whitespace, .error problem⟩ respaced = .error problem := by
  intro respaced
  have written : ∀ lexeme ∈ tokens.map Token.lexeme, lexeme.Written lexeme.toText := by
    intro lexeme member
    rcases List.mem_map.mp member with ⟨token, tokenMember, rfl⟩
    have each := LexerMode.boundary.written_scan expression
    rw [readable] at each
    exact each token tokenMember
  have reread : LexerMode.whitespace.scan respaced
      = ⟨Lexeme.spaced 0 (tokens.map Token.lexeme), none⟩ := by
    have joined := Lexer.ofRuns_join written 0
    rwa [List.map_map] at joined
  have same := Lexeme.map_lexeme_spaced 0 (tokens.map Token.lexeme)
  have corresponds := Machine.corresponds_run same.symm context
  refine ⟨Lexeme.spaced 0 (tokens.map Token.lexeme), reread, same, ?_, ?_, ?_⟩
  · rw [evaluate_eq_run readable, evaluate_eq_run reread]
    exact corresponds.1
  · rw [explain_of_readable (by rw [readable]), explain_of_readable (by rw [reread]), readable,
      reread]
    exact corresponds.2
  · intro problem
    simp only [Options.evaluate, Options.explain, readable, reread]
    exact ⟨trivial, trivial, trivial, trivial⟩

theorem respacing_preserves_meaning_zero_divisor :
    ∃ others,
      LexerMode.whitespace.scan (text "( 1 + .5 ) / 0") = ⟨others, none⟩ ∧
        Corresponds (LexerMode.boundary.scan (text "(1+.5)/0")).tokens others
          (evaluate .standard .boundary (text "(1+.5)/0"))
          (evaluate .standard .whitespace (text "( 1 + .5 ) / 0")) := by
  have readable : LexerMode.boundary.scan (text "(1+.5)/0")
      = ⟨(LexerMode.boundary.scan (text "(1+.5)/0")).tokens, none⟩ := by
    decide +kernel
  have respaced : Text.join (text " ")
      ((LexerMode.boundary.scan (text "(1+.5)/0")).tokens.map Token.toText)
        = text "( 1 + .5 ) / 0" := by
    decide +kernel
  rcases respacing_preserves_meaning .standard (text "(1+.5)/0") _ readable with
    ⟨others, reread, _, corresponds, _⟩
  rw [respaced] at reread corresponds
  exact ⟨others, reread, corresponds⟩

end InfixCalc
