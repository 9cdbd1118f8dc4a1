import InfixCalc.Evaluation
import InfixCalc.Proofs.Machine.Recording

/-!
# Explanations replay

The steps of an explanation can be followed by hand.  They start from two empty
stacks, each of them shows its own action and nothing else, and they take over
the tokens of the text from the first one on, up to the end or to the token
that fails.
-/

namespace InfixCalc

section

variable
    {context : Context}
    {mode : LexerMode}
    {expression : Text}

/-- An explanation has the result of the evaluation. -/
theorem explain_result :
    (explain context mode expression).result = evaluate context mode expression := by
  unfold explain evaluate
  dsimp only
  cases (mode.scan expression).failure <;> rfl

theorem explain_of_scan_failure
    {problem : Failure}
    (failed : (mode.scan expression).failure = some problem) :
    explain context mode expression = ⟨.error problem, []⟩ := by
  unfold explain
  dsimp only
  rw [failed]

theorem explain_of_readable
    (readToEnd : (mode.scan expression).failure = none) :
    explain context mode expression
      = ⟨(Machine.run context (mode.scan expression).tokens).outcome,
          (Machine.run context (mode.scan expression).tokens).written⟩ := by
  unfold explain
  dsimp only
  rw [readToEnd]
  rfl

end

/--
An explanation has the result of the evaluation, and its steps replay from two
empty stacks.  The shifts list the tokens that were taken over: all of them when
there is a value or the failure comes at the end, those before the failing token
else, and none when the text cannot be read.  At every step there are as many
operands as numbers were taken over without the operators carried out so far,
and a value is all that the last snapshot shows.
-/
theorem explanation_replays
    (context : Context)
    (mode : LexerMode)
    (expression : Text) :
    let scan := mode.scan expression
    let explanation := explain context mode expression
    explanation.result = evaluate context mode expression ∧
      ∃ shifted rest,
        scan.tokens = shifted ++ rest ∧
          (∃ last, Replay ⟨[], []⟩ shifted explanation.steps last) ∧
          explanation.steps.filterMap TraceStep.shift?
            = shifted.map (fun token => (token.toText, token.position)) ∧
          (∀ problem, scan.failure = some problem → shifted = [] ∧ explanation.steps = []) ∧
          (scan.failure = none → Machine.Ends context shifted rest explanation.result) ∧
          (∀ first step later, explanation.steps = first ++ step :: later →
            step.after.operands.length + (first ++ [step]).countP TraceStep.isReduction
              = (shifted.take ((first ++ [step]).filterMap TraceStep.shift?).length).countP
                  Token.isNumber) ∧
          (∀ value, explanation.result = .ok value →
            rest = [] ∧
              explanation.steps.getLast?.map TraceStep.after = some ⟨[value.toText], []⟩) := by
  intro scan explanation
  refine ⟨explain_result, ?_⟩
  cases failure : scan.failure with
  | some problem =>
    have stopped : explanation = ⟨.error problem, []⟩ := explain_of_scan_failure failure
    rw [stopped]
    refine ⟨[], scan.tokens, rfl, ⟨_, .done⟩, rfl, fun _ _ => ⟨rfl, rfl⟩, ?_, ?_, ?_⟩
    · intro readToEnd
      cases readToEnd
    · intro first step later equal
      simp at equal
    · intro value found
      cases found
  | none =>
    have ran : explanation
        = ⟨(Machine.run context scan.tokens).outcome,
            (Machine.run context scan.tokens).written⟩ :=
      explain_of_readable failure
    rw [ran]
    rcases Machine.replay_run context scan.tokens with
      ⟨shifted, rest, last, split, ends, replay, lastValue⟩
    refine ⟨shifted, rest, split, ⟨last, replay⟩, replay.shifts_eq, ?_, fun _ => ends, ?_, ?_⟩
    · intro problem failed
      cases failed
    · intro first step later equal
      dsimp only at equal
      rw [equal] at replay
      exact replay.operands_at
    · intro value found
      refine ⟨ends.rest_eq_nil found, ?_⟩
      have shown := replay.last_eq
      rw [lastValue value found] at shown
      dsimp only
      cases lastStep : (Machine.run context scan.tokens).written.getLast? with
      | none =>
        rw [lastStep] at shown
        cases shown
      | some step =>
        rw [lastStep] at shown
        exact congrArg some shown.symm

end InfixCalc
