import InfixCalc.Proofs.Machine.History
import InfixCalc.Proofs.Machine.Simulation

/-!
# A group stands for its value

Whatever a machine has been through, the tokens of a factor come to a single operand
on top of those that are there, and what is pending beneath is not touched.  The main
statement is about a group: fed to a machine with any history, it leads where the
value alone would have led.
-/

namespace InfixCalc

namespace Reaction

theorem andThen_settled (reaction : Reaction Unit) :
    (reaction.andThen fun after _ => settled after ()) = reaction := by
  rcases reaction with ⟨machine, steps, problem | ⟨⟩⟩
  · rfl
  · simp [andThen, settled]

/-- An account keeps the value of a success and the machine that it leads to. -/
theorem ok_of_account
    {α : Type}
    {reaction : Reaction α}
    {after : Machine}
    {value : α}
    (found : reaction.account.outcome = .ok (after, value)) :
    reaction.outcome = .ok value ∧ reaction.machine = after := by
  rcases reaction with ⟨machine, steps, problem | result⟩
  · cases found
  · cases found
    exact ⟨rfl, rfl⟩

end Reaction

namespace Machine

open Pending (rankOf)

variable {context : Context}

theorem reduceWhile_of_never
    (operands : Stack Decimal)
    (entries : List Pending) :
    reduceWhile context (fun _ => false) operands entries = .settled ⟨operands, ⟨entries⟩⟩ () := by
  rcases entries with _ | ⟨_ | _, _⟩ <;> rfl

/-- All that is pending binds less tightly than a factor, so none of it is carried out. -/
theorem account_feedAll_factor
    {machine : Machine}
    {tokens : List Token}
    {tree : Expression}
    (sound : machine.Sound)
    (derives : Derives .factor tokens tree) :
    (feedAll context machine tokens).account
      = (tree.account context).andThen fun value =>
          .settled (⟨machine.operands.push value, machine.pending⟩, ()) := by
  rcases machine with ⟨operands, ⟨entries⟩⟩
  have looser : rankOf entries < Level.factor.rank := Nat.lt_succ_of_le (Pending.rankOf_le entries)
  have noneTighter : ∀ symbol : Operator, Level.factor.rank ≤ symbol.rank → false = true := by
    intro symbol tighter
    cases symbol <;> simp [Level.rank, Operator.rank] at tighter
  have simulates : Simulates context .factor tokens tree := simulates_of_derives derives
  have simulated := simulates operands entries (fun _ => false) sound.baseOf_le looser noneTighter
  simp only [reduceWhile_of_never] at simulated
  rw [Reaction.andThen_settled] at simulated
  exact simulated

/-- A factor that has a value leads where a number with that value leads. -/
theorem feedAll_factor
    {machine : Machine}
    {tokens : List Token}
    {tree : Expression}
    {value : Decimal}
    (sound : machine.Sound)
    (derives : Derives .factor tokens tree)
    (evaluates : tree.value? context = .ok value) :
    (feedAll context machine tokens).outcome = .ok () ∧
      (feedAll context machine tokens).machine
        = ⟨machine.operands.push value, machine.pending⟩ := by
  apply Reaction.ok_of_account
  rw [account_feedAll_factor sound derives, Expression.account, Account.andThen, evaluates]
  rfl

/--
A group acts as one operand in any context.  After every history of calls, failed
ones among them, an expression in parentheses that has a value can be fed without a
failure.  The pending entries stay as they are, the value comes on top of the
operands, and the machine is the one that a number with that value leads to.
-/
theorem group_acts_as_operand
    (history : List Call)
    {tokens : List Token}
    {tree : Expression}
    {value : Decimal}
    (derives : Derives .sum tokens tree)
    (evaluates : tree.value? context = .ok value)
    (opening closing : Nat) :
    let machine := afterCalls context initial history
    let reaction :=
      feedAll context machine (⟨.openGroup, opening⟩ :: (tokens ++ [⟨.closeGroup, closing⟩]))
    reaction.outcome = .ok () ∧
      reaction.machine.pending = machine.pending ∧
      reaction.machine.operands.toList = machine.operands.toList ++ [value] ∧
      ∀ written position,
        reaction.machine = (feed context machine ⟨.number value written, position⟩).machine := by
  intro machine reaction
  have sound : machine.Sound := afterCalls_sound trivial
  have factor : Derives .factor (⟨.openGroup, opening⟩ :: (tokens ++ [⟨.closeGroup, closing⟩]))
      (.group opening closing tree) := .group derives
  have fed := feedAll_factor sound factor evaluates
  have after : reaction.machine = ⟨machine.operands.push value, machine.pending⟩ := fed.2
  refine ⟨fed.1, ?_, ?_, ?_⟩
  · rw [after]
  · rw [after, Stack.toList_push]
  · intro written position
    rw [after]
    rfl

/-- The quotient that waits for its right side is not disturbed by the failure before it. -/
theorem group_acts_as_operand_after_empty_group :
    let history : List Call :=
      [.feed ⟨.number (.finite false 8 0) (text "8"), 0⟩,
        .feed ⟨.operator .div, 1⟩,
        .feed ⟨.openGroup, 2⟩,
        .feed ⟨.closeGroup, 3⟩]
    let tokens : List Token :=
      [⟨.number (.finite false 1 0) (text "1"), 5⟩,
        ⟨.operator .add, 6⟩,
        ⟨.number (.finite false 2 0) (text "2"), 7⟩]
    let tree : Expression :=
      .binary .add 6 (.literal (.finite false 1 0) (text "1") 5)
        (.literal (.finite false 2 0) (text "2") 7)
    let machine := afterCalls .standard initial history
    let reaction :=
      feedAll .standard machine (⟨.openGroup, 4⟩ :: (tokens ++ [⟨.closeGroup, 8⟩]))
    machine = ⟨⟨[.finite false 8 0]⟩, ⟨[.operator .div 1 1 0]⟩⟩ ∧
      Derives .sum tokens tree ∧
      tree.value? .standard = .ok (.finite false 3 0) ∧
      reaction.outcome = .ok () ∧
      reaction.machine.pending = machine.pending ∧
      reaction.machine.operands.toList = machine.operands.toList ++ [.finite false 3 0] ∧
      ∀ written position,
        reaction.machine
          = (feed .standard machine ⟨.number (.finite false 3 0) written, position⟩).machine := by
  intro history tokens tree machine reaction
  have derives : Derives .sum tokens tree :=
    .sum rfl (.ofProduct (.ofFactor .literal)) (.ofFactor .literal)
  have sum : Operator.add.apply .standard (.finite false 1 0) (.finite false 2 0)
      = .finite false 3 0 := by decide +kernel
  have evaluates : tree.value? .standard = .ok (.finite false 3 0) := congrArg Except.ok sum
  have left : machine = ⟨⟨[.finite false 8 0]⟩, ⟨[.operator .div 1 1 0]⟩⟩ := by decide +kernel
  exact ⟨left, derives, evaluates, group_acts_as_operand history derives evaluates 4 8⟩

end Machine

end InfixCalc
