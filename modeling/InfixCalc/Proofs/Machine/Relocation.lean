import InfixCalc.Proofs.Machine.Recording

/-!
# Positions do not matter

Moving every token to another place moves the positions in pending entries, in
steps and in failures along, and changes nothing else: `relocate_run` says that
running and moving can be exchanged.

Two lists of tokens with the same lexemes are both moved from the list in which
every token stands at its own index.  So their runs correspond: they come to the
same value or fail alike, and differ in positions only.
-/

namespace InfixCalc

/-! ## Moving things to another place -/

/-- The token at another place. -/
def Token.relocate
    (move : Nat → Nat)
    (token : Token) :
    Token :=
  ⟨token.lexeme, move token.position⟩

namespace Pending

/-- The entry of a token at another place. -/
def relocate (move : Nat → Nat) : Pending → Pending
  | operator symbol position base floor => operator symbol (move position) base floor
  | group position base => group (move position) base

@[simp]
theorem base_relocate
    (move : Nat → Nat)
    (entry : Pending) :
    (entry.relocate move).base = entry.base := by
  cases entry <;> rfl

@[simp]
theorem toText_relocate
    (move : Nat → Nat)
    (entry : Pending) :
    (entry.relocate move).toText = entry.toText := by
  cases entry <;> rfl

end Pending

/-- The machine that tokens at other places lead to. -/
def Machine.relocate
    (move : Nat → Nat)
    (machine : Machine) :
    Machine :=
  ⟨machine.operands, ⟨machine.pending.entries.map (Pending.relocate move)⟩⟩

/-- The action on a token at another place. -/
def Action.relocate (move : Nat → Nat) : Action → Action
  | shift token => shift (token.relocate move)
  | reduce symbol position left right result => reduce symbol (move position) left right result

/-- The step on a token at another place. -/
def Step.relocate
    (move : Nat → Nat)
    (step : Step) :
    Step :=
  ⟨step.action.relocate move, step.after.relocate move⟩

/-- The written step on a token at another place. -/
def TraceStep.relocate (move : Nat → Nat) : TraceStep → TraceStep
  | shift token position after => shift token (move position) after
  | reduce symbol position left right result after =>
    reduce symbol (move position) left right result after

namespace Failure

/-- The failure that blames another place. -/
def relocate (move : Nat → Nat) : Failure → Failure
  | unrecognizedToken run position => unrecognizedToken run (move position)
  | unexpectedUnit unit position => unexpectedUnit unit (move position)
  | unmatchedClose position => unmatchedClose (move position)
  | unclosedOpen position => unclosedOpen (move position)
  | emptyGroup position => emptyGroup (move position)
  | missingLeft symbol position => missingLeft symbol (move position)
  | missingRight symbol position => missingRight symbol (move position)
  | notEnoughOperands symbol position => notEnoughOperands symbol (move position)
  | divisionByZero position => divisionByZero (move position)
  | leftover count => leftover count
  | emptyExpression => emptyExpression

@[simp]
theorem code_relocate
    (move : Nat → Nat)
    (problem : Failure) :
    (problem.relocate move).code = problem.code := by
  cases problem <;> rfl

@[simp]
theorem position?_relocate
    (move : Nat → Nat)
    (problem : Failure) :
    (problem.relocate move).position? = problem.position?.map move := by
  cases problem <;> rfl

end Failure

namespace Reaction

variable {α β : Type}

/-- The reaction to tokens at other places. -/
def relocate
    (move : Nat → Nat)
    (reaction : Reaction α) :
    Reaction α :=
  ⟨reaction.machine.relocate move, reaction.steps.map (Step.relocate move),
    reaction.outcome.mapError (Failure.relocate move)⟩

/-- Work that goes on after a success is moved if both parts of it are. -/
theorem relocate_andThen
    {move : Nat → Nat}
    {reaction moved : Reaction α}
    {next movedNext : Machine → α → Reaction β}
    (first : moved = reaction.relocate move)
    (second : ∀ machine value,
      movedNext (machine.relocate move) value = (next machine value).relocate move) :
    moved.andThen movedNext = (reaction.andThen next).relocate move := by
  rw [first]
  rcases reaction with ⟨machine, steps, problem | value⟩
  · rfl
  · have success : (Except.ok value : Except Failure α).mapError (Failure.relocate move)
        = .ok value := rfl
    simp only [andThen, relocate, success, second, List.map_append]

end Reaction

/-! ## Every part of a run can be moved -/

namespace Machine

variable
    {context : Context}
    {move : Nat → Nat}
    {machine : Machine}

@[simp]
theorem topBase_relocate : (machine.relocate move).topBase = machine.topBase := by
  rcases machine with ⟨operands, ⟨_ | ⟨entry, beneath⟩⟩⟩
  · rfl
  · simp [topBase, Stack.top?, relocate]

@[simp]
theorem snapshot_relocate : (machine.relocate move).snapshot = machine.snapshot := by
  simp [snapshot, relocate, Stack.toList]

theorem relocate_reduce
    (machine : Machine)
    {symbol : Operator}
    {position base floor : Nat} :
    reduce context symbol (move position) base floor (machine.relocate move)
      = (reduce context symbol position base floor machine).relocate move := by
  have sameSize : (machine.relocate move).operands.size = machine.operands.size := rfl
  unfold reduce
  rw [sameSize]
  by_cases noLeft : base ≤ floor
  · rw [if_pos noLeft, if_pos noLeft]
    rfl
  · rw [if_neg noLeft, if_neg noLeft]
    by_cases noRight : machine.operands.size ≤ base
    · rw [if_pos noRight, if_pos noRight]
      rfl
    · rw [if_neg noRight, if_neg noRight]
      rcases machine with ⟨⟨_ | ⟨right, _ | ⟨left, beneath⟩⟩⟩, pending⟩
      · rfl
      · rfl
      · dsimp only [relocate]
        by_cases zeroDivisor : symbol = .div ∧ right.isZero
        · rw [if_pos zeroDivisor, if_pos zeroDivisor]
          rfl
        · rw [if_neg zeroDivisor, if_neg zeroDivisor]
          rfl

theorem relocate_reduceWhile
    {ready : Operator → Bool}
    {operands : Stack Decimal}
    {entries : List Pending} :
    reduceWhile context ready operands (entries.map (Pending.relocate move))
      = (reduceWhile context ready operands entries).relocate move := by
  induction entries generalizing operands with
  | nil => rfl
  | cons entry beneath inner =>
    cases entry with
    | group position base => rfl
    | operator symbol position base floor =>
      rw [List.map_cons, Pending.relocate, reduceWhile, reduceWhile]
      by_cases isReady : ready symbol
      · rw [if_pos isReady, if_pos isReady]
        exact Reaction.relocate_andThen (relocate_reduce ⟨operands, ⟨beneath⟩⟩) fun _ _ => inner
      · rw [if_neg isReady, if_neg isReady]
        rfl

theorem relocate_reduceTighter
    {symbol : Operator} :
    reduceTighter context symbol (machine.relocate move)
      = (reduceTighter context symbol machine).relocate move :=
  relocate_reduceWhile

theorem relocate_reduceGroup :
    reduceGroup context (machine.relocate move) = (reduceGroup context machine).relocate move :=
  relocate_reduceWhile

theorem relocate_closeGroup
    (token : Token)
    (machine : Machine) :
    closeGroup (token.relocate move) (machine.relocate move)
      = (closeGroup token machine).relocate move := by
  rcases machine with ⟨operands, ⟨entries⟩⟩
  rcases entries with _ | ⟨⟨symbol, position, base, floor⟩ | ⟨position, base⟩, beneath⟩
  · rfl
  · rfl
  · by_cases unfilled : operands.size ≤ base
    · simp only [closeGroup, relocate, List.map_cons, Pending.relocate, if_pos unfilled]
      rfl
    · simp only [closeGroup, relocate, List.map_cons, Pending.relocate, if_neg unfilled]
      rfl

theorem relocate_feed
    {token : Token} :
    feed context (machine.relocate move) (token.relocate move)
      = (feed context machine token).relocate move := by
  rcases token with ⟨lexeme, position⟩
  cases lexeme with
  | number value written => rfl
  | openGroup => rfl
  | operator symbol =>
    dsimp only [feed, Token.relocate]
    apply Reaction.relocate_andThen relocate_reduceTighter
    intro machine _
    rw [pushOperator, topBase_relocate]
    rfl
  | closeGroup =>
    dsimp only [feed, Token.relocate]
    apply Reaction.relocate_andThen relocate_reduceGroup
    intro machine _
    exact relocate_closeGroup ⟨.closeGroup, position⟩ machine

theorem relocate_feedAll
    (machine : Machine)
    {tokens : List Token} :
    feedAll context (machine.relocate move) (tokens.map (Token.relocate move))
      = (feedAll context machine tokens).relocate move := by
  induction tokens generalizing machine with
  | nil => rfl
  | cons token rest inner =>
    exact Reaction.relocate_andThen relocate_feed fun machine _ => inner machine

theorem relocate_takeValue :
    takeValue (machine.relocate move) = (takeValue machine).relocate move := by
  rcases machine with ⟨⟨operands⟩, ⟨entries⟩⟩
  rcases entries with _ | ⟨⟨symbol, position, base, floor⟩ | ⟨position, base⟩, beneath⟩
  · rcases operands with _ | ⟨value, _ | ⟨second, others⟩⟩
    · rfl
    · rfl
    · rfl
  · rfl
  · rfl

theorem relocate_finish :
    finish context (machine.relocate move) = (finish context machine).relocate move :=
  Reaction.relocate_andThen relocate_reduceGroup fun _ _ => relocate_takeValue

/-- A run on tokens at other places is the same run at other places. -/
theorem relocate_run
    {tokens : List Token} :
    run context (tokens.map (Token.relocate move)) = (run context tokens).relocate move :=
  Reaction.relocate_andThen (relocate_feedAll initial) fun _ _ => relocate_finish

end Machine

theorem TraceStep.ofStep_relocate
    (move : Nat → Nat)
    (step : Step) :
    ofStep (step.relocate move) = (ofStep step).relocate move := by
  rcases step with ⟨action, after⟩
  cases action with
  | shift token =>
    simp only [ofStep, Step.relocate, Action.relocate, Machine.snapshot_relocate]
    rfl
  | reduce symbol position left right result =>
    simp only [ofStep, Step.relocate, Action.relocate, Machine.snapshot_relocate]
    rfl

/-- The written step without its position. -/
def TraceStep.unplaced (step : TraceStep) : TraceStep :=
  step.relocate fun _ => 0

theorem TraceStep.unplaced_relocate
    (move : Nat → Nat)
    (step : TraceStep) :
    (step.relocate move).unplaced = step.unplaced := by
  cases step <;> rfl

theorem Reaction.written_relocate
    {α : Type}
    (move : Nat → Nat)
    (reaction : Reaction α) :
    (reaction.relocate move).written = reaction.written.map (TraceStep.relocate move) := by
  simp only [written, relocate, List.map_map]
  congr 1
  funext step
  exact TraceStep.ofStep_relocate move step

end InfixCalc
