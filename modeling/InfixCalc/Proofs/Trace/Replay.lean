import InfixCalc.Trace

/-!
# Replaying a trace

`Follows` says what a written step may show after a given snapshot: its own
action and nothing else.  A step either takes over one token or carries out one
operator on the last two operands.  `Replay` puts steps together, along with
the tokens that they take over.

Two laws follow from the steps alone: the shifts list the tokens that were
taken over, and after any number of steps there are as many operands as numbers
were taken over without the operators that were carried out.
-/

namespace InfixCalc

/-- Whether a token is a number. -/
def Token.isNumber (token : Token) : Bool :=
  match token.lexeme with
  | .number _ _ => true
  | .operator _ => false
  | .openGroup => false
  | .closeGroup => false

namespace TraceStep

/-- The text and the position of the token that a step takes over. -/
def shift? : TraceStep → Option (Text × Nat)
  | shift token position _ => some (token, position)
  | reduce _ _ _ _ _ _ => none

/-- Whether a step carries out an operator. -/
def isReduction : TraceStep → Bool
  | shift _ _ _ => false
  | reduce _ _ _ _ _ _ => true

/-- What a step shows after a snapshot, and the tokens that it takes over. -/
inductive Follows : Snapshot → List Token → TraceStep → Prop where
  | number
      {operands operators : List Text}
      {value : Decimal}
      {written : Text}
      {position : Nat} :
      Follows ⟨operands, operators⟩ [⟨.number value written, position⟩]
        (.shift written position ⟨operands ++ [value.toText], operators⟩)
  | operator
      {operands operators : List Text}
      {symbol : Operator}
      {position : Nat} :
      Follows ⟨operands, operators⟩ [⟨.operator symbol, position⟩]
        (.shift symbol.toText position ⟨operands, operators ++ [symbol.toText]⟩)
  | openGroup
      {operands operators : List Text}
      {position : Nat} :
      Follows ⟨operands, operators⟩ [⟨.openGroup, position⟩]
        (.shift (text "(") position ⟨operands, operators ++ [text "("]⟩)
  | closeGroup
      {operands operators : List Text}
      {position : Nat} :
      Follows ⟨operands, operators ++ [text "("]⟩ [⟨.closeGroup, position⟩]
        (.shift (text ")") position ⟨operands, operators⟩)
  | reduce
      {operands operators : List Text}
      {symbol : Operator}
      {position : Nat}
      {left right result : Text} :
      Follows ⟨operands ++ [left, right], operators ++ [symbol.toText]⟩ []
        (.reduce symbol.toText position left right result ⟨operands ++ [result], operators⟩)

theorem Follows.shift?_eq
    {before : Snapshot}
    {taken : List Token}
    {step : TraceStep}
    (follows : Follows before taken step) :
    step.shift?.toList = taken.map fun token => (token.toText, token.position) := by
  cases follows <;> rfl

/-- A number brings one operand more, a carried out operator one less. -/
theorem Follows.operands_length
    {before : Snapshot}
    {taken : List Token}
    {step : TraceStep}
    (follows : Follows before taken step) :
    step.after.operands.length + [step].countP isReduction
      = before.operands.length + taken.countP Token.isNumber := by
  cases follows <;> simp [after, isReduction, Token.isNumber]

end TraceStep

/-- Steps that follow one another, the tokens that they take over, and the last snapshot. -/
inductive Replay : Snapshot → List Token → List TraceStep → Snapshot → Prop where
  | done
      {snapshot : Snapshot} :
      Replay snapshot [] [] snapshot
  | step
      {before last : Snapshot}
      {taken tokens : List Token}
      {step : TraceStep}
      {steps : List TraceStep} :
      step.Follows before taken →
      Replay step.after tokens steps last →
      Replay before (taken ++ tokens) (step :: steps) last

namespace Replay

/-- A single step. -/
theorem single
    {before : Snapshot}
    {taken : List Token}
    {step : TraceStep}
    (follows : step.Follows before taken) :
    Replay before taken [step] step.after := by
  have replay := Replay.step follows .done
  rwa [List.append_nil] at replay

theorem append
    {before middle last : Snapshot}
    {firstTokens laterTokens : List Token}
    {firstSteps laterSteps : List TraceStep}
    (first : Replay before firstTokens firstSteps middle)
    (later : Replay middle laterTokens laterSteps last) :
    Replay before (firstTokens ++ laterTokens) (firstSteps ++ laterSteps) last := by
  induction first with
  | done => exact later
  | step follows _ rest =>
    rw [List.append_assoc]
    exact .step follows (rest later)

/-- The first steps of a replay take the first tokens over. -/
theorem split
    {before last : Snapshot}
    {tokens : List Token}
    {firstSteps laterSteps : List TraceStep}
    (replay : Replay before tokens (firstSteps ++ laterSteps) last) :
    ∃ firstTokens laterTokens middle,
      tokens = firstTokens ++ laterTokens ∧
        Replay before firstTokens firstSteps middle ∧
        Replay middle laterTokens laterSteps last := by
  induction firstSteps generalizing before tokens with
  | nil => exact ⟨[], tokens, before, rfl, .done, replay⟩
  | cons step steps inner =>
    cases replay with
    | @step _ _ taken rest _ _ follows replay =>
      rcases inner replay with ⟨firstTokens, laterTokens, middle, rfl, first, later⟩
      refine ⟨taken ++ firstTokens, laterTokens, middle, ?_, .step follows first, later⟩
      rw [List.append_assoc]

/-- The last snapshot is the one that the last step shows. -/
theorem last_eq
    {before last : Snapshot}
    {tokens : List Token}
    {steps : List TraceStep}
    (replay : Replay before tokens steps last) :
    last = (steps.getLast?.map TraceStep.after).getD before := by
  induction replay with
  | done => rfl
  | step _ _ inner =>
    rw [inner, List.getLast?_cons]
    cases List.getLast? _ <;> rfl

/-- The shifts list the tokens that were taken over. -/
theorem shifts_eq
    {before last : Snapshot}
    {tokens : List Token}
    {steps : List TraceStep}
    (replay : Replay before tokens steps last) :
    steps.filterMap TraceStep.shift?
      = tokens.map fun token => (token.toText, token.position) := by
  induction replay with
  | done => rfl
  | step follows _ inner =>
    rw [List.map_append, ← follows.shift?_eq, ← inner, List.filterMap_cons]
    cases TraceStep.shift? _ <;> rfl

/-- Each number is an operand until an operator that is carried out takes one away. -/
theorem operands_length
    {before last : Snapshot}
    {tokens : List Token}
    {steps : List TraceStep}
    (replay : Replay before tokens steps last) :
    last.operands.length + steps.countP TraceStep.isReduction
      = before.operands.length + tokens.countP Token.isNumber := by
  induction replay with
  | done => rfl
  | @step _ _ _ _ step steps follows _ inner =>
    have one := follows.operands_length
    have split : (step :: steps).countP TraceStep.isReduction
        = [step].countP TraceStep.isReduction + steps.countP TraceStep.isReduction := by
      rw [← List.countP_append, List.singleton_append]
    rw [split, List.countP_append]
    omega

/-- After each step the numbers taken over by then account for the operands. -/
theorem operands_at
    {shifted : List Token}
    {first later : List TraceStep}
    {step : TraceStep}
    {last : Snapshot}
    (replay : Replay ⟨[], []⟩ shifted (first ++ step :: later) last) :
    step.after.operands.length + (first ++ [step]).countP TraceStep.isReduction
      = (shifted.take ((first ++ [step]).filterMap TraceStep.shift?).length).countP
          Token.isNumber := by
  rw [List.append_cons] at replay
  rcases replay.split with ⟨taken, untaken, middle, rfl, upTo, _⟩
  have counted := upTo.operands_length
  have shown := upTo.last_eq
  rw [List.getLast?_concat] at shown
  rw [upTo.shifts_eq, List.length_map, List.take_left']
  · rw [shown] at counted
    simpa using counted
  · rfl

end Replay

end InfixCalc
