import InfixCalc.Machine

/-!
# What a reaction guarantees

Work goes on after a success and ends with a failure; two equations say so.
`Reaction.Ensures` is a contract for a piece of work on the machine: one
condition on where a success leads, another one on what a failure leaves behind.
Work that follows a success starts from the first condition, so that contracts
are put together along `Reaction.andThen` and nothing has to be unfolded.
-/

namespace InfixCalc.Reaction

variable {α β : Type}

/-! ## Going on after a success or a failure -/

theorem andThen_of_ok
    {reaction : Reaction α}
    {value : α}
    (next : Machine → α → Reaction β)
    (found : reaction.outcome = .ok value) :
    reaction.andThen next
      = ⟨(next reaction.machine value).machine,
          reaction.steps ++ (next reaction.machine value).steps,
          (next reaction.machine value).outcome⟩ := by
  rw [andThen, found]

theorem andThen_of_error
    {reaction : Reaction α}
    {problem : Failure}
    (next : Machine → α → Reaction β)
    (failed : reaction.outcome = .error problem) :
    reaction.andThen next = ⟨reaction.machine, reaction.steps, .error problem⟩ := by
  rw [andThen, failed]

/-! ## Contracts -/

/-- A success ends as the first condition says, a failure as the second one says. -/
def Ensures
    (reaction : Reaction α)
    (success : Machine → α → Prop)
    (failure : Machine → Failure → Prop) :
    Prop :=
  match reaction.outcome with
  | .ok value => success reaction.machine value
  | .error problem => failure reaction.machine problem

@[simp]
theorem ensures_settled
    {success : Machine → α → Prop}
    {failure : Machine → Failure → Prop}
    {machine : Machine}
    {value : α} :
    (settled machine value).Ensures success failure ↔ success machine value := Iff.rfl

@[simp]
theorem ensures_failed
    {success : Machine → α → Prop}
    {failure : Machine → Failure → Prop}
    {machine : Machine}
    {problem : Failure} :
    (failed machine problem : Reaction α).Ensures success failure
      ↔ failure machine problem := Iff.rfl

/-- What comes second may rely on what the first part ensures. -/
theorem Ensures.andThen
    {reaction : Reaction α}
    {next : Machine → α → Reaction β}
    {middle : Machine → α → Prop}
    {success : Machine → β → Prop}
    {failure : Machine → Failure → Prop}
    (first : reaction.Ensures middle failure)
    (second : ∀ machine value, middle machine value →
      (next machine value).Ensures success failure) :
    (reaction.andThen next).Ensures success failure := by
  rcases reaction with ⟨machine, steps, problem | value⟩
  · exact first
  · exact second machine value first

end InfixCalc.Reaction
