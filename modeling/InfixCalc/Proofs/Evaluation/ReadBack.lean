import InfixCalc.Proofs.Decimal.Canonical
import InfixCalc.Proofs.Evaluation.Grammar
import InfixCalc.Proofs.Expression.Numbers
import InfixCalc.Proofs.Token.Readers

/-!
# Printed values can be evaluated again

The text of a value is a literal, unless the value is below zero.  Literals are read
exactly, so that such a text comes to the same value under all options, and is
printed as it was.  A value below zero is a literal behind a sign, and no literal
has one; but it is the result of an operator, so that the difference of zero and the
literal is not rounded once more.
-/

namespace InfixCalc

/-- Both readers read lexemes that are written with single blanks between them. -/
theorem LexerMode.scan_join
    (mode : LexerMode)
    {lexemes : List Lexeme}
    (written : ∀ lexeme ∈ lexemes, lexeme.Written lexeme.toText) :
    mode.scan (Text.join [0x20] (lexemes.map Lexeme.toText)) = ⟨Lexeme.spaced 0 lexemes, none⟩ := by
  have words := Lexer.ofRuns_join written 0
  cases mode with
  | whitespace => exact words
  | boundary =>
    have within := LexerMode.within_scan (Text.join [0x20] (lexemes.map Lexeme.toText))
    rw [within.whole (congrArg Scan.failure words)]
    exact words

namespace Literal

/-- The lexeme of a literal. -/
def lexeme (written : Text) : Lexeme :=
  .number (value written) written

theorem written_lexeme
    {written : Text}
    {number : ℚ}
    (literal : number? written = some number) :
    (lexeme written).Written written ∧ (value written).toRat = number := by
  unfold number? at literal
  split at literal
  · rename_i isLiteral
    exact ⟨.number (isLiteral_iff.mp isLiteral), Option.some.inj literal⟩
  · cases literal

end Literal

/-- A literal is evaluated exactly under all options. -/
theorem evaluate_literal
    (context : Context)
    (mode : LexerMode)
    {written : Text}
    (literal : (Literal.lexeme written).Written written) :
    evaluate context mode written = .ok (Literal.value written) := by
  have readable := mode.scan_join (List.forall_mem_singleton.mpr literal)
  exact evaluate_eq_value? readable (.ofProduct (.ofFactor .literal))

/-- A literal that is taken from zero. -/
theorem evaluate_zero_sub_literal
    (context : Context)
    (mode : LexerMode)
    {written : Text}
    (literal : (Literal.lexeme written).Written written) :
    evaluate context mode (text "0 - " ++ written)
      = .ok (Decimal.sub context (Literal.value [0x30]) (Literal.value written)) := by
  have zero : (Literal.lexeme [0x30]).Written [0x30] :=
    (Literal.written_lexeme Decimal.number?_zero).1
  have minus : (Lexeme.operator .sub).Written [0x2D] := .symbol (by decide)
  have each : ∀ lexeme ∈ [Literal.lexeme [0x30], .operator .sub, Literal.lexeme written],
      lexeme.Written lexeme.toText := by
    simpa using ⟨zero, minus, literal⟩
  have readable := mode.scan_join each
  have derives : Derives .sum
      (Lexeme.spaced 0 [Literal.lexeme [0x30], .operator .sub, Literal.lexeme written])
      (.binary .sub 2 (.literal (Literal.value [0x30]) [0x30] 0)
        (.literal (Literal.value written) written 4)) :=
    .sum rfl (.ofProduct (.ofFactor .literal)) (.ofFactor .literal)
  exact evaluate_eq_value? readable derives

/-- Every value is the total of a tree whose operators are all defined. -/
theorem exists_tree_of_evaluate_ok
    {context : Context}
    {mode : LexerMode}
    {expression : Text}
    {value : Decimal}
    (found : evaluate context mode expression = .ok value) :
    ∃ tree : Expression,
      tree.IsExact ∧ tree.total context = value ∧
        ∀ operation ∈ tree.operations context, operation.isDefined := by
  cases failure : (mode.scan expression).failure with
  | some problem =>
    rw [evaluate_of_scan_failure failure] at found
    cases found
  | none =>
    have readable : mode.scan expression = ⟨(mode.scan expression).tokens, none⟩ := by
      rw [← failure]
    rcases isExpression_of_evaluate_ok readable found with ⟨tree, derives⟩
    rw [evaluate_eq_value? readable derives, Expression.value?_eq_ok_iff] at found
    refine ⟨tree, Expression.isExact_of_tokens ?_, found⟩
    rw [derives.tokens_eq]
    exact (mode.faithful_scan expression).exact_values

theorem isFinite_of_evaluate_ok
    {context : Context}
    {mode : LexerMode}
    {expression : Text}
    {value : Decimal}
    (found : evaluate context mode expression = .ok value) :
    value.isFinite := by
  rcases exists_tree_of_evaluate_ok found with ⟨tree, exact, rfl, defined⟩
  exact tree.isFinite_total exact defined

/-- A value below zero has no more digits than the precision. -/
theorem hasDigits_of_evaluate_ok
    {context : Context}
    {mode : LexerMode}
    {expression : Text}
    {value : Decimal}
    (found : evaluate context mode expression = .ok value)
    (negative : value.toRat < 0) :
    HasDigits context.precision value.toRat := by
  rcases exists_tree_of_evaluate_ok found with ⟨tree, exact, rfl, defined⟩
  rcases tree.nonneg_or_hasDigits_total exact defined with nonneg | short
  · exact absurd nonneg negative.not_ge
  · exact short

/--
Printed values can be evaluated again.  A value is finite, and its text is in plain
notation, without a sign on zero.  If the value is not below zero, its text comes to
the same number under either reader and in every context, and is printed as it was.
If it is below zero, its text is that of a magnitude behind a sign, and zero minus
the magnitude comes to the same number in the context that the value has come from.
So two values are printed alike just if they are equal as numbers, whatever options
they were evaluated under.
-/
theorem printed_value_reads_back
    {context : Context}
    {mode : LexerMode}
    {expression : Text}
    {value : Decimal}
    (found : evaluate context mode expression = .ok value) :
    value.isFinite ∧
      value.toText.IsPlain ∧
      value.toText ≠ text "-0" ∧
      (0 ≤ value.toRat → ∀ otherContext otherMode, ∃ again,
        evaluate otherContext otherMode value.toText = .ok again ∧
          again.toRat = value.toRat ∧ again.toText = value.toText) ∧
      (value.toRat < 0 → ∃ magnitude, value.toText = 0x2D :: magnitude ∧
        ∀ otherMode, ∃ again,
          evaluate context otherMode (text "0 - " ++ magnitude) = .ok again ∧
            again.toRat = value.toRat) ∧
      ∀ otherContext otherMode otherExpression other,
        evaluate otherContext otherMode otherExpression = .ok other →
          (value.toText = other.toText ↔ value.toRat = other.toRat) := by
  have isFinite := isFinite_of_evaluate_ok found
  refine ⟨isFinite, Decimal.isPlain_toText isFinite, Decimal.toText_ne_signed_zero isFinite,
    ?_, ?_, ?_⟩
  · intro nonneg otherContext otherMode
    rcases Literal.written_lexeme (Decimal.number?_toText_of_nonneg isFinite nonneg) with
      ⟨literal, number⟩
    exact ⟨_, evaluate_literal otherContext otherMode literal, number,
      Decimal.toText_eq_of_toRat_eq (Literal.isFinite_value _) isFinite number⟩
  · intro negative
    rcases Decimal.number?_toText_of_neg isFinite negative with ⟨magnitude, printed, literal⟩
    rcases Literal.written_lexeme literal with ⟨written, number⟩
    refine ⟨magnitude, printed, fun otherMode => ?_⟩
    refine ⟨_, evaluate_zero_sub_literal context otherMode written, ?_⟩
    calc
      (Decimal.sub context (Literal.value [0x30]) (Literal.value magnitude)).toRat
        = context.nearest ((Literal.value [0x30]).toRat - (Literal.value magnitude).toRat) :=
          Decimal.toRat_sub context (Literal.isFinite_value _) (Literal.isFinite_value _)
      _ = context.nearest value.toRat := by
          rw [number, (Literal.written_lexeme Decimal.number?_zero).2, zero_sub, neg_neg]
      _ = value.toRat := context.nearest_of_hasDigits (hasDigits_of_evaluate_ok found negative)
  · intro otherContext otherMode otherExpression other otherFound
    exact Decimal.toText_eq_iff isFinite (isFinite_of_evaluate_ok otherFound)

theorem printed_value_reads_back_quotient :
    ∃ value again,
      evaluate .standard .boundary (text "(1-3)/16") = .ok value ∧
        value.toText = text "-0.125" ∧
        value.toRat < 0 ∧
        evaluate .standard .whitespace (text "0 - 0.125") = .ok again ∧
        again.toRat = value.toRat := by
  have found : evaluate .standard .boundary (text "(1-3)/16") = .ok (.finite true 1250 (-4)) := by
    decide +kernel
  have printed : (Decimal.finite true 1250 (-4)).toText = 0x2D :: text "0.125" := by
    decide +kernel
  have negative : (Decimal.finite true 1250 (-4)).toRat < 0 :=
    (Decimal.toRat_neg_iff (by decide) true (-4)).mpr rfl
  rcases printed_value_reads_back found with ⟨_, _, _, _, below, _⟩
  rcases below negative with ⟨magnitude, signed, reads⟩
  rw [printed] at signed
  cases signed
  rcases reads .whitespace with ⟨again, evaluated, equal⟩
  exact ⟨_, again, found, printed, negative, evaluated, equal⟩

end InfixCalc
