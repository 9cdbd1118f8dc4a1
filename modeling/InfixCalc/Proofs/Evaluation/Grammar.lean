import InfixCalc.Proofs.Evaluation.Diagnosis
import InfixCalc.Proofs.Expression.Grammar
import InfixCalc.Proofs.Machine.Simulation

/-!
# Evaluation follows the grammar

The machine has no grammar in it.  Still it evaluates what the grammar derives
as its tree says, and gives a value to nothing else: a run that ends well leaves
a single operand, and tokens that leave a single operand form an expression.
-/

namespace InfixCalc

section

variable
    {context : Context}
    {mode : LexerMode}
    {expression : Text}
    {tokens : List Token}

/-- What stops the reading is the failure of the evaluation. -/
theorem evaluate_of_scan_failure
    {problem : Failure}
    (failed : (mode.scan expression).failure = some problem) :
    evaluate context mode expression = .error problem := by
  unfold evaluate
  dsimp only
  rw [failed]

/-- What can be read as a tree comes to the value of the tree. -/
theorem evaluate_eq_value?
    {tree : Expression}
    (readable : mode.scan expression = ⟨tokens, none⟩)
    (derives : Derives .sum tokens tree) :
    evaluate context mode expression = tree.value? context := by
  rw [evaluate_eq_run readable, Reaction.outcome_eq, Machine.account_run derives]
  unfold Expression.account
  cases tree.value? context <;> rfl

/-- Only expressions have values. -/
theorem isExpression_of_evaluate_ok
    {value : Decimal}
    (readable : mode.scan expression = ⟨tokens, none⟩)
    (found : evaluate context mode expression = .ok value) :
    IsExpression tokens :=
  (leaves_of_evaluate_ok readable found).isExpression

end

/--
An expression is evaluated as the grammar says.  A text that cannot be read
fails as the reading of it does, whatever its first tokens are.  Else every
number has the exact value of what was written, and the tokens come to the
total of any tree that they form, each operator rounded, unless there is a
division by zero: then the first one is to blame, left sides before right sides
and both before the operator between them.  Tokens that form no tree have no
value.
-/
theorem evaluate_follows_grammar
    (context : Context)
    (mode : LexerMode)
    (expression : Text) :
    let scan := mode.scan expression
    let result := evaluate context mode expression
    (∀ problem, scan.failure = some problem →
        result = .error problem ∧ problem.code = .lexical) ∧
      (∀ token ∈ scan.tokens, ∀ value written,
        token.lexeme = .number value written → value = Literal.value written) ∧
      (scan.failure = none →
        (∀ tree, Derives .sum scan.tokens tree →
          (tree.zeroDivisions context = [] → result = .ok (tree.total context)) ∧
            ∀ position later, tree.zeroDivisions context = position :: later →
              result = .error (.divisionByZero position)) ∧
          (¬ IsExpression scan.tokens → ∀ value, result ≠ .ok value)) := by
  intro scan result
  have faithful : scan.Faithful 0 := mode.faithful_scan expression
  refine ⟨?_, faithful.exact_values, ?_⟩
  · intro problem failed
    exact ⟨evaluate_of_scan_failure failed, faithful.lexical problem failed⟩
  · intro readToEnd
    have readable : mode.scan expression = ⟨scan.tokens, none⟩ := by
      rw [← readToEnd]
    constructor
    · intro tree derives
      have value : result = tree.value? context := evaluate_eq_value? readable derives
      rw [value, tree.value?_eq context]
      constructor
      · intro none
        rw [none]
        rfl
      · intro position later some
        rw [some]
        rfl
    · intro noExpression value found
      exact noExpression (isExpression_of_evaluate_ok readable found)

/-- Of two divisions by zero the left one is to blame. -/
example :
    evaluate .standard .boundary (text "1/(2-2)+3/0") = .error (.divisionByZero 1) := by
  decide +kernel

end InfixCalc
