import InfixCalc.Proofs.Machine.Layers

/-!
# Histories of calls

A machine can be fed and finished in any order, and is used further after a
call that failed.  Every call keeps the layers of the pending entries, whether
it succeeds or fails, so they stand after every history; what a caller can rely
on is put together in `Machine.Coherent`.
-/

namespace InfixCalc

/-- One use of a machine: a token, or the end of the input. -/
inductive Call where
  | feed (token : Token)
  | finish
  deriving DecidableEq, Repr

namespace Machine

open Pending (baseOf rankOf)

/-- Answer a call; a value comes from the end of the input only. -/
def answer
    (context : Context)
    (machine : Machine)
    (call : Call) :
    Reaction (Option Decimal) :=
  match call with
  | .feed token =>
    (feed context machine token).andThen fun after _ => .settled after none
  | .finish =>
    (finish context machine).andThen fun after value => .settled after (some value)

/-- The machine after some calls, with what a failing one left. -/
def afterCalls
    (context : Context)
    (machine : Machine) :
    List Call → Machine
  | [] => machine
  | call :: rest => afterCalls context (answer context machine call).machine rest

/-- The pending entries lie in layers on the operands. -/
def Sound (machine : Machine) : Prop :=
  Layered machine.pending.entries machine.operands.size

/-- A failure that leaves a sound machine and does not blame its bounds. -/
def Harmless
    (machine : Machine)
    (problem : Failure) :
    Prop :=
  machine.Sound ∧ ∀ symbol position, problem ≠ .notEnoughOperands symbol position

/-! ## Every call keeps the layers -/

/-- A zero divisor takes two operands along, and the entry beneath still has enough. -/
theorem reduce_layered
    {context : Context}
    {symbol : Operator}
    {position base floor : Nat}
    {operands : Stack Decimal}
    {beneath : List Pending}
    (layered : Layered (.operator symbol position base floor :: beneath) operands.size) :
    (reduce context symbol position base floor ⟨operands, ⟨beneath⟩⟩).Ensures
      (fun after _ => Layered beneath after.operands.size) Harmless := by
  rcases layered with ⟨bounded, floorEq, _, lower⟩
  have lowest := lower.baseOf_le
  have reduced := reduces_reduce context symbol position base floor ⟨operands, ⟨beneath⟩⟩
  generalize reduce context symbol position base floor ⟨operands, ⟨beneath⟩⟩ = reaction
    at reduced ⊢
  cases reduced with
  | missingLeft _ =>
    refine ⟨lower.resize (Nat.le_trans lowest bounded), ?_⟩
    intro _ _ impossible
    cases impossible
  | missingRight _ _ =>
    refine ⟨lower.resize (Nat.le_trans lowest bounded), ?_⟩
    intro _ _ impossible
    cases impossible
  | @divisionByZero left right rest _ hasLeft hasRight _ _ =>
    have enough : baseOf beneath ≤ rest.length := by omega
    refine ⟨lower.resize enough, ?_⟩
    intro _ _ impossible
    cases impossible
  | @result left right rest _ hasLeft hasRight _ =>
    have enough : baseOf beneath ≤ rest.length + 1 := by omega
    exact lower.resize enough

theorem reduceWhile_layered
    {context : Context}
    {ready : Operator → Bool}
    {machine : Machine}
    (sound : machine.Sound) :
    (reduceWhile context ready machine.operands machine.pending.entries).Ensures
      (fun after _ => after.Sound ∧ Stopped ready after.pending.entries) Harmless :=
  reduceWhile_ensures
    (fun operands entries => Layered entries operands.size)
    (fun _ _ _ _ _ _ layered => reduce_layered layered) sound

/-- What is left beneath a new operator binds less tightly. -/
theorem Stopped.rankOf_lt
    {symbol : Operator}
    {entries : List Pending}
    (stopped : Stopped (fun top => symbol.rank ≤ top.rank) entries) :
    rankOf entries < symbol.rank := by
  rcases entries with _ | ⟨⟨top, position, base, floor⟩ | _, _⟩
  · cases symbol <;> decide
  · have looser := stopped top position base floor _ rfl
    simpa [Pending.rank] using looser
  · cases symbol <;> simp [Pending.rank, Operator.rank]

theorem pushOperator_sound
    {symbol : Operator}
    {position : Nat}
    {machine : Machine}
    (sound : machine.Sound)
    (stopped : Stopped (fun top => symbol.rank ≤ top.rank) machine.pending.entries) :
    (pushOperator symbol position machine).Sound :=
  ⟨Nat.le_refl _, machine.topBase_eq, stopped.rankOf_lt, sound⟩

theorem closeGroup_layered
    {token : Token}
    {machine : Machine}
    (sound : machine.Sound) :
    (closeGroup token machine).Ensures (fun after _ => after.Sound) Harmless := by
  rcases machine with ⟨operands, ⟨entries⟩⟩
  unfold closeGroup
  split
  · rename_i position base beneath equal
    cases equal
    rcases sound with ⟨bounded, lower⟩
    have enough : Layered beneath operands.size :=
      lower.resize (Nat.le_trans lower.baseOf_le bounded)
    split
    · refine ⟨enough, ?_⟩
      intro _ _ impossible
      cases impossible
    · exact enough
  · refine ⟨sound, ?_⟩
    intro _ _ impossible
    cases impossible

theorem feed_layered
    {context : Context}
    {machine : Machine}
    {token : Token}
    (sound : machine.Sound) :
    (feed context machine token).Ensures (fun after _ => after.Sound) Harmless := by
  unfold feed
  split
  · rename_i value written equal
    have more : machine.operands.size ≤ (machine.operands.push value).size :=
      Nat.le_succ machine.operands.size
    exact Layered.resize sound (Nat.le_trans sound.baseOf_le more)
  · refine (reduceWhile_layered sound).andThen ?_
    intro after _ reduced
    exact pushOperator_sound reduced.1 reduced.2
  · exact ⟨Nat.le_refl _, sound⟩
  · refine (reduceWhile_layered sound).andThen ?_
    intro after _ reduced
    exact closeGroup_layered reduced.1

theorem takeValue_layered
    {machine : Machine}
    (sound : machine.Sound) :
    (takeValue machine).Ensures (fun after _ => after = initial) Harmless := by
  rcases machine with ⟨⟨operands⟩, ⟨entries⟩⟩
  have harmless : ∀ problem : Failure,
      (∀ symbol position, problem ≠ .notEnoughOperands symbol position) →
        Harmless ⟨⟨operands⟩, ⟨entries⟩⟩ problem :=
    fun _ different => ⟨sound, different⟩
  unfold takeValue
  split
  · exact harmless _ (by simp)
  · exact harmless _ (by simp)
  · rename_i noEntries
    cases noEntries
    split
    · exact harmless _ (by simp)
    · exact rfl
    · exact harmless _ (by simp)

theorem finish_layered
    {context : Context}
    {machine : Machine}
    (sound : machine.Sound) :
    (finish context machine).Ensures (fun after _ => after = initial) Harmless := by
  refine (reduceWhile_layered sound).andThen ?_
  intro after _ reduced
  exact takeValue_layered reduced.1

theorem answer_layered
    {context : Context}
    {machine : Machine}
    {call : Call}
    (sound : machine.Sound) :
    (answer context machine call).Ensures
      (fun after value => after.Sound ∧ (value.isSome → after = initial)) Harmless := by
  cases call with
  | feed token =>
    simp only [answer]
    refine (feed_layered sound).andThen ?_
    intro after _ afterSound
    exact ⟨afterSound, by simp⟩
  | finish =>
    simp only [answer]
    refine (finish_layered sound).andThen ?_
    rintro after value rfl
    exact ⟨trivial, fun _ => rfl⟩

/-- A call leaves a sound machine whether it succeeds or fails. -/
theorem answer_sound
    {context : Context}
    {machine : Machine}
    {call : Call}
    (sound : machine.Sound) :
    (answer context machine call).machine.Sound := by
  have layered : (answer context machine call).Ensures _ _ := answer_layered sound
  generalize answer context machine call = reaction at layered ⊢
  rcases reaction with ⟨after, steps, problem | value⟩
  · exact layered.1
  · exact layered.1

theorem afterCalls_sound
    {context : Context}
    {machine : Machine}
    {calls : List Call}
    (sound : machine.Sound) :
    (afterCalls context machine calls).Sound := by
  induction calls generalizing machine with
  | nil => exact sound
  | cons call rest inner => exact inner (answer_sound sound)

/-! ## What callers can rely on -/

/-- The bounds that the pending entries keep, bottom first. -/
structure Coherent (machine : Machine) : Prop where
  /-- No entry came at fewer operands than one beneath it. -/
  bases_sorted : (machine.pending.toList.map Pending.base).Pairwise (· ≤ ·)
  /-- The topmost entry came at no more operands than there are. -/
  topBase_le : machine.topBase ≤ machine.operands.size
  /-- The floor of an operator is the base of the entry directly beneath it. -/
  floor_eq :
    ∀ beneath symbol position base floor above,
      machine.pending.toList = beneath ++ .operator symbol position base floor :: above →
        floor = (beneath.getLast?.map Pending.base).getD 0
  /-- Operators with no parenthesis between them bind tighter and tighter. -/
  ranks_rise :
    ∀ stretch : List Operator,
      stretch.map some <:+: machine.pending.toList.map Pending.symbol? →
        stretch.Pairwise fun lower upper => lower.rank < upper.rank
  /-- There are few operators for the number of parentheses. -/
  operators_le :
    machine.pending.toList.countP Pending.isOperator
      ≤ 2 * (machine.pending.toList.countP Pending.isGroup + 1)

theorem Sound.coherent
    {machine : Machine}
    (sound : machine.Sound) :
    machine.Coherent where
  bases_sorted := by
    rw [Stack.toList, List.map_reverse, List.pairwise_reverse]
    exact sound.bases.1
  topBase_le := sound.baseOf_le
  floor_eq := by
    intro beneath symbol position base floor above equal
    have reversed :
        machine.pending.entries
          = above.reverse ++ .operator symbol position base floor :: beneath.reverse := by
      rw [← List.reverse_reverse machine.pending.entries]
      change machine.pending.toList.reverse = _
      rw [equal]
      simp
    have layered : Layered machine.pending.entries machine.operands.size := sound
    rw [reversed] at layered
    rw [layered.floor_eq, baseOf, List.head?_reverse]
  ranks_rise := by
    intro stretch within
    rw [Stack.toList, List.map_reverse, ← List.reverse_infix, List.reverse_reverse,
      ← List.map_reverse] at within
    exact List.pairwise_reverse.mp (sound.ranks within)
  operators_le := by
    rw [Stack.toList, List.countP_reverse, List.countP_reverse]
    have bounded := sound.operators_le
    have topRank := Pending.rankOf_le machine.pending.entries
    omega

/--
After every history of calls the pending entries are coherent; the next call
never finds fewer operands than its bounds promise, and one that gives a value
leaves both stacks empty.
-/
theorem coherent_afterCalls
    (context : Context)
    (history : List Call) :
    let machine := afterCalls context initial history
    machine.Coherent ∧
      ∀ call,
        let reaction := answer context machine call
        reaction.machine.Coherent ∧
          (∀ symbol position,
            reaction.outcome ≠ .error (.notEnoughOperands symbol position)) ∧
          ∀ value, reaction.outcome = .ok (some value) →
            reaction.machine.operands = .empty ∧ reaction.machine.pending = .empty := by
  intro machine
  have sound : machine.Sound := afterCalls_sound trivial
  refine ⟨sound.coherent, ?_⟩
  intro call
  refine ⟨(answer_sound sound).coherent, ?_⟩
  have layered : (answer context machine call).Ensures _ _ := answer_layered sound
  generalize answer context machine call = reaction at layered ⊢
  rcases reaction with ⟨after, steps, problem | value⟩
  · refine ⟨?_, ?_⟩
    · intro symbol position equal
      cases equal
      exact layered.2 symbol position rfl
    · intro value equal
      cases equal
  · refine ⟨?_, ?_⟩
    · intro symbol position equal
      cases equal
    · intro taken equal
      cases equal
      have emptied : after = initial := layered.2 rfl
      rw [emptied]
      exact ⟨rfl, rfl⟩

end Machine

end InfixCalc
