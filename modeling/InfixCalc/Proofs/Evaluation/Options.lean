import InfixCalc.Proofs.Double.Exact
import InfixCalc.Proofs.Evaluation.Explanation
import InfixCalc.Proofs.Machine.Correspondence
import InfixCalc.Proofs.Token.Scan

/-!
# Explaining under options

Options cannot be used if what they give as a number of digits or as a rounding
mode is none; this shows only where the text can be read.  All that is explained is explained by
reading the text or by a machine that runs on its tokens, so that a failure
blames a place in the text.
-/

namespace InfixCalc

/-! ## Digits that can be computed with -/

namespace Precision

/-- The number that is given, if it is one and finite. -/
def value? : Precision → Option ℚ
  | number value => value.toRat?
  | other _ => none

/-- A whole number from 1 to 1000000000. -/
def IsUsable (precision : Precision) : Prop :=
  ∃ digits : Nat, 1 ≤ digits ∧ digits ≤ 1000000000 ∧ precision.value? = some (digits : ℚ)

theorem digits?_eq_some_iff
    {precision : Precision}
    {digits : Nat} :
    precision.digits? = some digits ↔ precision.value? = some (digits : ℚ) := by
  cases precision with
  | number value => exact Double.toNat?_eq_some_iff
  | other shown => simp [digits?, value?]

end Precision

/-- There is a context just for the digits that can be computed with. -/
theorem Context.ofPrecision?_error_iff
    {precision : Precision}
    {mode : RoundingMode} :
    (∃ problem, ofPrecision? precision mode = .error problem) ↔ ¬ precision.IsUsable := by
  unfold ofPrecision?
  cases found : precision.digits? with
  | none =>
    apply iff_of_true ⟨_, rfl⟩
    rintro ⟨digits, _, _, value⟩
    rw [Precision.digits?_eq_some_iff.mpr value] at found
    cases found
  | some digits =>
    have value := Precision.digits?_eq_some_iff.mp found
    dsimp only
    split
    · rename_i bounds
      apply iff_of_false
      · rintro ⟨problem, ⟨⟩⟩
      · exact fun unusable => unusable ⟨digits, bounds.1, bounds.2, value⟩
    · rename_i outside
      apply iff_of_true ⟨_, rfl⟩
      rintro ⟨other, positive, bounded, same⟩
      have equal : digits = other := by
        exact_mod_cast Option.some.inj (value.symm.trans same)
      exact outside (equal ▸ ⟨positive, bounded⟩)

/-- What is given is a mode. -/
def Rounding.IsMode (rounding : Rounding) : Prop :=
  ∃ chosen, rounding = .mode chosen

/-- There is a context just for a mode and digits that can be computed with. -/
theorem Context.ofGiven?_error_iff
    {precision : Precision}
    {rounding : Rounding} :
    (∃ problem, ofGiven? precision rounding = .error problem) ↔
      ¬ (precision.IsUsable ∧ rounding.IsMode) := by
  cases rounding with
  | mode chosen =>
    have isMode : (Rounding.mode chosen).IsMode := ⟨chosen, rfl⟩
    rw [ofGiven?, ofPrecision?_error_iff, and_iff_left isMode]
  | other shown =>
    have failed : ∃ problem, ofGiven? precision (.other shown) = .error problem := by
      rw [ofGiven?]
      cases ofPrecision? precision .standard with
      | ok context => exact ⟨.rounding shown, rfl⟩
      | error problem => exact ⟨problem, rfl⟩
    apply iff_of_true failed
    rintro ⟨_, chosen, ⟨⟩⟩

/-! ## Explaining under options -/

namespace Options

variable
    {options : Options}
    {expression : Text}

theorem evaluate_eq_explain :
    options.evaluate expression = (options.explain expression).map Explanation.result := by
  unfold evaluate explain
  split
  · rw [← explain_result]
    rfl
  · split <;> rfl

/-- Nothing can be explained if the text can be read and there is no context. -/
theorem explain_error_iff :
    (∃ problem, options.explain expression = .error problem) ↔
      (options.lexer.scan expression).failure = none ∧
        ∃ problem, options.context = .error problem := by
  unfold explain
  rcases options with ⟨lexer, problem | context⟩
  · dsimp only
    cases (lexer.scan expression).failure <;> simp
  · simp

variable
    {explanation : Explanation}
    (explained : options.explain expression = .ok explanation)

include explained

/-- Either the text cannot be read or a machine has run on its tokens. -/
theorem explain_cases :
    (∃ failure, (options.lexer.scan expression).failure = some failure ∧
        explanation = ⟨.error failure, []⟩) ∨
      ∃ context,
        explanation = ⟨(Machine.run context (options.lexer.scan expression).tokens).outcome,
          (Machine.run context (options.lexer.scan expression).tokens).written⟩ := by
  unfold explain at explained
  split at explained
  · rename_i context _
    cases explained
    cases failure : (options.lexer.scan expression).failure with
    | some problem => exact .inl ⟨problem, rfl, explain_of_scan_failure failure⟩
    | none => exact .inr ⟨context, explain_of_readable failure⟩
  · split at explained
    · rename_i failed
      cases explained
      exact .inl ⟨_, failed, rfl⟩
    · cases explained

/-- A failure blames a place in the expression. -/
theorem position_lt
    {failure : Failure}
    (failed : explanation.result = .error failure)
    {position : Nat}
    (blamed : failure.position? = some position) :
    position < expression.length := by
  have inside := options.lexer.inside_scan expression
  rcases explain_cases explained with ⟨problem, stopped, rfl⟩ | ⟨context, rfl⟩
  · cases failed
    rcases inside.failure _ stopped with ⟨place, found, _, bounded⟩
    rw [blamed] at found
    cases found
    exact bounded
  · have justified := Machine.run_justified context (options.lexer.scan expression).tokens
    dsimp only at failed
    rw [Reaction.Ensures, failed] at justified
    rcases justified.blames_token blamed with ⟨token, member, rfl⟩
    exact (inside.tokens token member).2

/-- The steps are written steps of a machine. -/
theorem steps_written : ∃ work : List Step, explanation.steps = work.map TraceStep.ofStep := by
  rcases explain_cases explained with ⟨problem, _, rfl⟩ | ⟨context, rfl⟩
  · exact ⟨[], rfl⟩
  · exact ⟨_, rfl⟩

end Options

end InfixCalc
