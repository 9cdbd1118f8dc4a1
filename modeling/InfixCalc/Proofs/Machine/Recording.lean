import InfixCalc.Proofs.Machine.Reduction
import InfixCalc.Proofs.Trace.Replay

/-!
# The machine records what it does

Every piece of work on the machine leaves steps that replay from the machine
that it began with.  After a success they lead to the machine that is left, and
after a failure they are those of the work that was done before it.
-/

namespace InfixCalc

namespace Reaction

variable {α β : Type}

/-- The written steps of a reaction. -/
def written (reaction : Reaction α) : List TraceStep :=
  reaction.steps.map .ofStep

/--
The steps of a reaction replay from a machine.  A success takes the tokens over
and its last snapshot is that of the machine it leads to; a failure takes none.
-/
def Records
    (before : Machine)
    (taken : List Token)
    (reaction : Reaction α) :
    Prop :=
  match reaction.outcome with
  | .ok _ => Replay before.snapshot taken reaction.written reaction.machine.snapshot
  | .error _ => ∃ last, Replay before.snapshot [] reaction.written last

theorem records_settled
    {machine : Machine}
    {value : α} :
    (settled machine value).Records machine [] :=
  Replay.done

theorem records_failed
    {before machine : Machine}
    {taken : List Token}
    {problem : Failure} :
    (failed machine problem : Reaction α).Records before taken :=
  ⟨before.snapshot, .done⟩

theorem Records.of_error
    {before : Machine}
    {taken : List Token}
    {reaction : Reaction α}
    {problem : Failure}
    (records : reaction.Records before taken)
    (failed : reaction.outcome = .error problem) :
    ∃ last, Replay before.snapshot [] reaction.written last := by
  rwa [Records, failed] at records

/-- Work that takes no token over may come first. -/
theorem Records.andThen
    {before : Machine}
    {taken : List Token}
    {reaction : Reaction α}
    {next : Machine → α → Reaction β}
    (first : reaction.Records before [])
    (second : ∀ value, reaction.outcome = .ok value →
      (next reaction.machine value).Records reaction.machine taken) :
    (reaction.andThen next).Records before taken := by
  rcases reaction with ⟨machine, steps, problem | value⟩
  · exact first
  · have later := second value rfl
    unfold Records at first later ⊢
    simp only [Reaction.andThen, written, List.map_append] at first later ⊢
    rcases equal : next machine value with ⟨after, laterSteps, problem | result⟩
    · rw [equal] at later
      rcases later with ⟨last, later⟩
      exact ⟨last, first.append later⟩
    · rw [equal] at later
      exact first.append later

end Reaction

namespace Machine

variable {context : Context}

/-- Both stacks as texts; an entry on top comes last. -/
theorem snapshot_eq
    (operands : List Decimal)
    (entries : List Pending) :
    snapshot ⟨⟨operands⟩, ⟨entries⟩⟩
      = ⟨(operands.map Decimal.toText).reverse, (entries.map Pending.toText).reverse⟩ := by
  simp [snapshot, Stack.toList]

theorem records_reduce
    {symbol : Operator}
    {position base floor : Nat}
    {operands : Stack Decimal}
    {beneath : List Pending} :
    (reduce context symbol position base floor ⟨operands, ⟨beneath⟩⟩).Records
      ⟨operands, ⟨.operator symbol position base floor :: beneath⟩⟩ [] := by
  have reduces := reduces_reduce context symbol position base floor ⟨operands, ⟨beneath⟩⟩
  generalize reduce context symbol position base floor ⟨operands, ⟨beneath⟩⟩ = reaction
    at reduces ⊢
  cases reduces with
  | missingLeft _ => exact Reaction.records_failed
  | missingRight _ _ => exact Reaction.records_failed
  | divisionByZero _ _ _ _ => exact Reaction.records_failed
  | @result left right rest _ _ _ _ =>
    refine Replay.single ?_
    rw [TraceStep.ofStep, snapshot_eq, snapshot_eq]
    simp only [List.map_cons, List.reverse_cons, List.append_assoc, List.singleton_append]
    exact .reduce

/-- Each operator is recorded from where the one before it left the machine. -/
theorem records_reduceWhile
    {ready : Operator → Bool}
    {operands : Stack Decimal}
    {entries : List Pending} :
    (reduceWhile context ready operands entries).Records ⟨operands, ⟨entries⟩⟩ [] := by
  induction entries generalizing operands with
  | nil => exact Reaction.records_settled
  | cons entry beneath inner =>
    cases entry with
    | group position base => exact Reaction.records_settled
    | operator symbol position base floor =>
      unfold reduceWhile
      split
      · refine records_reduce.andThen ?_
        intro _ _
        have reduces := reduces_reduce context symbol position base floor ⟨operands, ⟨beneath⟩⟩
        have same := reduces.pending_eq
        generalize (reduce context symbol position base floor ⟨operands, ⟨beneath⟩⟩).machine
          = reduced at same ⊢
        rcases reduced with ⟨rest, pending⟩
        cases same
        exact inner
      · exact Reaction.records_settled

/-- Taking a token over is recorded if the machine shows that and nothing else. -/
theorem records_shifted
    {token : Token}
    {before after : Machine}
    (follows : (TraceStep.shift token.toText token.position after.snapshot).Follows
      before.snapshot [token]) :
    (shifted token after).Records before [token] :=
  Replay.single follows

theorem records_closeGroup
    {position : Nat}
    {machine : Machine} :
    (closeGroup ⟨.closeGroup, position⟩ machine).Records machine [⟨.closeGroup, position⟩] := by
  rcases machine with ⟨⟨operands⟩, ⟨entries⟩⟩
  unfold closeGroup
  split
  · rename_i opening base beneath top
    cases top
    split
    · exact Reaction.records_failed
    · refine records_shifted ?_
      rw [snapshot_eq, snapshot_eq, List.map_cons, List.reverse_cons]
      exact .closeGroup
  · exact Reaction.records_failed

/-- Feeding a token records the operators that it sets off and then the token itself. -/
theorem records_feed
    {machine : Machine}
    {token : Token} :
    (feed context machine token).Records machine [token] := by
  rcases machine with ⟨⟨operands⟩, ⟨entries⟩⟩
  rcases token with ⟨lexeme, position⟩
  cases lexeme with
  | number value written =>
    refine records_shifted ?_
    rw [Stack.push, snapshot_eq, snapshot_eq, List.map_cons, List.reverse_cons]
    exact .number
  | openGroup =>
    refine records_shifted ?_
    rw [pushGroup, Stack.push, snapshot_eq, snapshot_eq, List.map_cons, List.reverse_cons]
    exact .openGroup
  | operator symbol =>
    refine records_reduceWhile.andThen ?_
    intro _ _
    generalize (reduceTighter context symbol ⟨⟨operands⟩, ⟨entries⟩⟩).machine = reduced
    rcases reduced with ⟨⟨operands⟩, ⟨entries⟩⟩
    refine records_shifted ?_
    rw [pushOperator, Stack.push, snapshot_eq, snapshot_eq, List.map_cons, List.reverse_cons]
    exact .operator
  | closeGroup =>
    refine records_reduceWhile.andThen ?_
    intro _ _
    exact records_closeGroup

/-! ## Whole runs -/

/-- Tokens that are all taken over are recorded one after another. -/
theorem replay_feedAll
    {machine : Machine}
    {tokens : List Token}
    (fed : (feedAll context machine tokens).outcome = .ok ()) :
    Replay machine.snapshot tokens (feedAll context machine tokens).written
      (feedAll context machine tokens).machine.snapshot := by
  induction tokens generalizing machine with
  | nil => exact .done
  | cons token rest inner =>
    have first : (feed context machine token).Records machine [token] := records_feed
    unfold feedAll at fed ⊢
    generalize feed context machine token = reaction at first fed ⊢
    rcases reaction with ⟨after, steps, problem | _⟩
    · cases fed
    · have later := inner fed
      unfold Reaction.written Reaction.andThen
      rw [List.map_append]
      exact first.append later

/-- Either all tokens are taken over, or those before the first one that fails. -/
theorem feedAll_cases
    (context : Context)
    (machine : Machine)
    (tokens : List Token) :
    (feedAll context machine tokens).outcome = .ok () ∨
      ∃ shifted token later problem,
        tokens = shifted ++ token :: later ∧
          (feedAll context machine shifted).outcome = .ok () ∧
          (feed context (feedAll context machine shifted).machine token).outcome
            = .error problem := by
  induction tokens generalizing machine with
  | nil => exact .inl rfl
  | cons token rest inner =>
    rcases equal : feed context machine token with ⟨after, steps, problem | _⟩
    · refine .inr ⟨[], token, rest, problem, rfl, rfl, ?_⟩
      exact congrArg Reaction.outcome equal
    · rcases inner after with fed | ⟨shifted, next, later, problem, rfl, fed, failed⟩
      · left
        rw [feedAll, equal]
        exact fed
      · refine .inr ⟨token :: shifted, next, later, problem, rfl, ?_, ?_⟩
        · rw [feedAll, equal]
          exact fed
        · rw [feedAll, equal]
          exact failed

/-- Taking the value is no step, and wants a single operand with nothing pending. -/
theorem takeValue_cases (machine : Machine) :
    (∃ problem, takeValue machine = .failed machine problem) ∨
      ∃ value, machine = ⟨⟨[value]⟩, .empty⟩ ∧ takeValue machine = .settled initial value := by
  rcases machine with ⟨⟨operands⟩, ⟨entries⟩⟩
  rcases entries with _ | ⟨⟨symbol, position, base, floor⟩ | ⟨position, base⟩, beneath⟩
  · rcases operands with _ | ⟨value, _ | ⟨second, others⟩⟩
    · exact .inl ⟨_, rfl⟩
    · exact .inr ⟨value, rfl, rfl⟩
    · exact .inl ⟨_, rfl⟩
  · exact .inl ⟨_, rfl⟩
  · exact .inl ⟨_, rfl⟩

/-- The end of the input is recorded up to the value, which is all that is left by then. -/
theorem replay_finish
    (context : Context)
    (machine : Machine) :
    ∃ last,
      Replay machine.snapshot [] (finish context machine).written last ∧
        ∀ value, (finish context machine).outcome = .ok value → last = ⟨[value.toText], []⟩ := by
  have reduced : (reduceGroup context machine).Records machine [] := records_reduceWhile
  unfold finish
  generalize reduceGroup context machine = reaction at reduced ⊢
  rcases reaction with ⟨after, steps, problem | _⟩
  · rcases reduced with ⟨last, replay⟩
    refine ⟨last, replay, ?_⟩
    intro value found
    cases found
  · have replay : Replay machine.snapshot [] (steps.map .ofStep) after.snapshot := reduced
    rw [Reaction.andThen_of_ok _ rfl]
    rcases takeValue_cases after with ⟨problem, failed⟩ | ⟨result, rfl, taken⟩
    · refine ⟨after.snapshot, ?_, ?_⟩
      · rwa [failed, Reaction.written, Reaction.failed, List.append_nil]
      · intro value found
        rw [failed] at found
        cases found
    · refine ⟨⟨[result.toText], []⟩, ?_, ?_⟩
      · rwa [taken, Reaction.written, Reaction.settled, List.append_nil]
      · intro value found
        rw [taken] at found
        cases found
        rfl

/-- How a run ends once some tokens have been taken over: after all of them, or at the next one. -/
inductive Ends
    (context : Context)
    (shifted : List Token) :
    List Token → Except Failure Decimal → Prop where
  | atEnd :
      (feedAll context initial shifted).outcome = .ok () →
      Ends context shifted [] (finish context (feedAll context initial shifted).machine).outcome
  | atToken
      {token : Token}
      {later : List Token}
      {problem : Failure} :
      (feedAll context initial shifted).outcome = .ok () →
      (feed context (feedAll context initial shifted).machine token).outcome = .error problem →
      Ends context shifted (token :: later) (.error problem)

/-- A value comes after all tokens. -/
theorem Ends.rest_eq_nil
    {shifted rest : List Token}
    {result : Except Failure Decimal}
    {value : Decimal}
    (ends : Ends context shifted rest result)
    (found : result = .ok value) :
    rest = [] := by
  cases ends with
  | atEnd _ => rfl
  | atToken _ _ => cases found

/--
A run records the tokens that it takes over, and of a token that it fails at no
more than the operators that were carried out for it.
-/
theorem replay_run
    (context : Context)
    (tokens : List Token) :
    ∃ shifted rest last,
      tokens = shifted ++ rest ∧
        Ends context shifted rest (run context tokens).outcome ∧
        Replay ⟨[], []⟩ shifted (run context tokens).written last ∧
        ∀ value, (run context tokens).outcome = .ok value → last = ⟨[value.toText], []⟩ := by
  rcases feedAll_cases context initial tokens with
    fed | ⟨shifted, token, later, problem, rfl, fed, failed⟩
  · rcases replay_finish context (feedAll context initial tokens).machine with
      ⟨last, replay, value⟩
    have whole := (replay_feedAll fed).append replay
    rw [List.append_nil] at whole
    refine ⟨tokens, [], last, (List.append_nil tokens).symm, ?_, ?_, ?_⟩
    · rw [run, Reaction.andThen_of_ok _ fed]
      exact .atEnd fed
    · rw [run, Reaction.andThen_of_ok _ fed, Reaction.written, List.map_append]
      exact whole
    · rwa [run, Reaction.andThen_of_ok _ fed]
  · have feeding : feedAll context initial (shifted ++ token :: later)
        = ⟨(feed context (feedAll context initial shifted).machine token).machine,
            (feedAll context initial shifted).steps
              ++ (feed context (feedAll context initial shifted).machine token).steps,
            .error problem⟩ := by
      rw [feedAll_append, Reaction.andThen_of_ok _ fed, feedAll, Reaction.andThen_of_error _ failed]
    rcases records_feed.of_error failed with ⟨last, replay⟩
    have whole := (replay_feedAll fed).append replay
    rw [List.append_nil] at whole
    rw [run, feeding]
    refine ⟨shifted, token :: later, last, rfl, .atToken fed failed, ?_, ?_⟩
    · rw [Reaction.written, Reaction.andThen, List.map_append]
      exact whole
    · intro value found
      cases found

end Machine

end InfixCalc
