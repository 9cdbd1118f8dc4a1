import InfixCalc.Proofs.Decimal.Arithmetic
import InfixCalc.Proofs.Machine.Reduction

/-!
# Operators are carried out lawfully

Whatever tokens a run is fed, grammatical or not, each operator that it carries
out takes two finite operands, does not divide by zero, and comes to what its
definition says.  The operands are finite because the numbers of the tokens are,
and results stay finite as long as nothing is divided by zero.
-/

namespace InfixCalc

/-- An operator that is carried out as it should be. -/
def Action.Lawful
    (context : Context)
    (action : Action) :
    Prop :=
  match action with
  | shift _ => True
  | reduce symbol _ left right result =>
    left.isFinite ∧ right.isFinite ∧ ¬ (symbol = .div ∧ right.isZero) ∧
      result = symbol.apply context left right

/-- All decimals on the stack are finite. -/
def Stack.AllFinite (operands : Stack Decimal) : Prop :=
  ∀ value ∈ operands.entries, value.isFinite

theorem Stack.allFinite_empty : (empty : Stack Decimal).AllFinite :=
  List.forall_mem_nil _

/-- Lawful work that leaves finite operands behind. -/
structure Reaction.Lawful
    {α : Type}
    (context : Context)
    (reaction : Reaction α) :
    Prop where
  steps : ∀ step ∈ reaction.steps, step.action.Lawful context
  finite : reaction.machine.operands.AllFinite

namespace Reaction

variable
    {α β : Type}
    {context : Context}

theorem lawful_settled
    {machine : Machine}
    (finite : machine.operands.AllFinite)
    (value : α) :
    (settled machine value).Lawful context :=
  ⟨List.forall_mem_nil _, finite⟩

theorem lawful_failed
    {machine : Machine}
    (finite : machine.operands.AllFinite)
    (problem : Failure) :
    (failed machine problem : Reaction α).Lawful context :=
  ⟨List.forall_mem_nil _, finite⟩

/-- Lawful work after lawful work is lawful. -/
theorem Lawful.andThen
    {reaction : Reaction α}
    {next : Machine → α → Reaction β}
    (first : reaction.Lawful context)
    (second : ∀ machine value, machine.operands.AllFinite → (next machine value).Lawful context) :
    (reaction.andThen next).Lawful context := by
  rcases reaction with ⟨machine, steps, problem | value⟩
  · exact ⟨first.steps, first.finite⟩
  · have later := second machine value first.finite
    exact ⟨List.forall_mem_append.mpr ⟨first.steps, later.steps⟩, later.finite⟩

end Reaction

namespace Machine

variable
    {context : Context}
    {machine : Machine}

theorem lawful_shifted
    (token : Token)
    (finite : machine.operands.AllFinite) :
    (shifted token machine).Lawful context :=
  ⟨List.forall_mem_singleton.mpr trivial, finite⟩

theorem lawful_reduce
    (symbol : Operator)
    (position base floor : Nat)
    (finite : machine.operands.AllFinite) :
    (reduce context symbol position base floor machine).Lawful context := by
  have reduces := reduces_reduce context symbol position base floor machine
  generalize reduce context symbol position base floor machine = reaction at reduces ⊢
  cases reduces with
  | missingLeft _ => exact Reaction.lawful_failed finite _
  | missingRight _ _ => exact Reaction.lawful_failed finite _
  | divisionByZero _ _ _ _ =>
    apply Reaction.lawful_failed
    intro value member
    exact finite value (List.mem_cons_of_mem _ (List.mem_cons_of_mem _ member))
  | @result left right beneath pending _ _ defined =>
    rcases List.forall_mem_cons.mp finite with ⟨rightFinite, others⟩
    rcases List.forall_mem_cons.mp others with ⟨leftFinite, beneathFinite⟩
    constructor
    · exact List.forall_mem_singleton.mpr ⟨leftFinite, rightFinite, defined, rfl⟩
    · exact List.forall_mem_cons.mpr
        ⟨symbol.isFinite_apply context leftFinite rightFinite defined, beneathFinite⟩

theorem lawful_reduceWhile
    (ready : Operator → Bool)
    {operands : Stack Decimal}
    (entries : List Pending)
    (finite : operands.AllFinite) :
    (reduceWhile context ready operands entries).Lawful context := by
  induction entries generalizing operands with
  | nil => exact Reaction.lawful_settled finite ()
  | cons entry beneath inner =>
    cases entry with
    | group position base => exact Reaction.lawful_settled finite ()
    | operator symbol position base floor =>
      unfold reduceWhile
      split
      · apply (lawful_reduce symbol position base floor finite).andThen
        intro machine _ after
        exact inner after
      · exact Reaction.lawful_settled finite ()

theorem lawful_closeGroup
    (token : Token)
    (finite : machine.operands.AllFinite) :
    (closeGroup token machine).Lawful context := by
  unfold closeGroup
  split
  · split
    · apply Reaction.lawful_failed
      exact finite
    · exact lawful_shifted token finite
  · exact Reaction.lawful_failed finite _

/-- One token is dealt with lawfully, a number if it is finite. -/
theorem lawful_feed
    {token : Token}
    (number : ∀ value written, token.lexeme = .number value written → value.isFinite)
    (finite : machine.operands.AllFinite) :
    (feed context machine token).Lawful context := by
  unfold feed
  split
  · rename_i value written isNumber
    apply lawful_shifted token
    exact List.forall_mem_cons.mpr ⟨number value written isNumber, finite⟩
  · apply (lawful_reduceWhile _ _ finite).andThen
    intro after _ afterFinite
    exact lawful_shifted token afterFinite
  · exact lawful_shifted token finite
  · apply (lawful_reduceWhile _ _ finite).andThen
    intro after _ afterFinite
    exact lawful_closeGroup token afterFinite

theorem lawful_feedAll
    {tokens : List Token}
    (numbers : ∀ token ∈ tokens, ∀ value written,
      token.lexeme = .number value written → value.isFinite)
    (finite : machine.operands.AllFinite) :
    (feedAll context machine tokens).Lawful context := by
  induction tokens generalizing machine with
  | nil => exact Reaction.lawful_settled finite ()
  | cons token rest inner =>
    rcases List.forall_mem_cons.mp numbers with ⟨first, later⟩
    apply (lawful_feed first finite).andThen
    intro after _ afterFinite
    exact inner later afterFinite

theorem lawful_takeValue
    (finite : machine.operands.AllFinite) :
    (takeValue machine).Lawful context := by
  unfold takeValue
  split
  · exact Reaction.lawful_failed finite _
  · exact Reaction.lawful_failed finite _
  · split
    · exact Reaction.lawful_failed finite _
    · exact Reaction.lawful_settled Stack.allFinite_empty _
    · exact Reaction.lawful_failed finite _

/-- Every operator of a run is carried out lawfully. -/
theorem lawful_run
    (context : Context)
    {tokens : List Token}
    (numbers : ∀ token ∈ tokens, ∀ value written,
      token.lexeme = .number value written → value.isFinite) :
    (run context tokens).Lawful context := by
  apply (lawful_feedAll numbers Stack.allFinite_empty).andThen
  intro machine _ finite
  apply (lawful_reduceWhile _ _ finite).andThen
  intro after _ afterFinite
  exact lawful_takeValue afterFinite

end Machine

end InfixCalc
