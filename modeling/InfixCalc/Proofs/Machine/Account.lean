import InfixCalc.Machine

/-!
# What work on the machine comes to

An account keeps two things of a reaction: the operators that were carried out,
and its outcome together with the machine of a success.  It forgets the tokens
that were taken over and what a failure leaves behind, so that the work on a
whole expression has the same account as the tree it stands for.
-/

namespace InfixCalc

/-- Whether an operator was carried out. -/
def Action.isReduction : Action → Bool
  | shift _ => false
  | reduce _ _ _ _ _ => true

/-- The operators that were carried out and what came of it. -/
structure Account (α : Type) where
  reductions : List Action
  outcome : Except Failure α

namespace Account

variable {α β γ : Type}

/-- A value without any work. -/
def settled (value : α) : Account α := ⟨[], .ok value⟩

/-- Go on with the value unless something failed. -/
def andThen
    (account : Account α)
    (next : α → Account β) :
    Account β :=
  match account.outcome with
  | .ok value => ⟨account.reductions ++ (next value).reductions, (next value).outcome⟩
  | .error failure => ⟨account.reductions, .error failure⟩

@[simp]
theorem settled_andThen
    (value : α)
    (next : α → Account β) :
    (settled value).andThen next = next value := rfl

theorem andThen_assoc
    (account : Account α)
    (next : α → Account β)
    (last : β → Account γ) :
    (account.andThen next).andThen last
      = account.andThen fun value => (next value).andThen last := by
  rcases account with ⟨reductions, failure | value⟩
  · rfl
  · rcases equal : next value with ⟨_, _ | _⟩ <;> simp [andThen, equal]

theorem reductions_andThen_settled
    (account : Account α)
    (change : α → β) :
    (account.andThen fun value => .settled (change value)).reductions = account.reductions := by
  rcases account with ⟨reductions, problem | value⟩
  · rfl
  · exact List.append_nil reductions

end Account

namespace Reaction

variable {α β : Type}

/-- The account of a reaction. -/
def account (reaction : Reaction α) : Account (Machine × α) :=
  ⟨(reaction.steps.map Step.action).filter Action.isReduction,
    reaction.outcome.map fun value => (reaction.machine, value)⟩

@[simp]
theorem account_settled
    (machine : Machine)
    (value : α) :
    (settled machine value).account = .settled (machine, value) := rfl

/-- The account of work in two parts is put together from the accounts of both. -/
theorem account_andThen
    (reaction : Reaction α)
    (next : Machine → α → Reaction β) :
    (reaction.andThen next).account
      = reaction.account.andThen fun after => (next after.1 after.2).account := by
  rcases reaction with ⟨machine, steps, failure | value⟩
  · rfl
  · simp [andThen, account, Account.andThen, Except.map]

/-- The outcome can be read off the account. -/
theorem outcome_eq (reaction : Reaction α) :
    reaction.outcome = reaction.account.outcome.map Prod.snd := by
  rcases reaction with ⟨machine, steps, _ | _⟩ <;> rfl

end Reaction

/-- Taking a token over is no work. -/
@[simp]
theorem Machine.account_shifted
    (token : Token)
    (machine : Machine) :
    (shifted token machine).account = .settled (machine, ()) := rfl

end InfixCalc
