import InfixCalc.Proofs.Reaction

/-!
# Carrying out pending operators

`Reduces` lists what carrying out one operator can come to, guards included;
no later proof looks into `Machine.reduce` again.  `reduceWhile_ensures` is the
one induction along the pending entries: what every single operator preserves
is preserved by the whole chain, and the chain stops where the next entry is
not ready.
-/

namespace InfixCalc

namespace Pending

/-- The base of the topmost of some entries, zero if there is none. -/
def baseOf (entries : List Pending) : Nat :=
  (entries.head?.map base).getD 0

@[simp]
theorem baseOf_nil : baseOf [] = 0 := rfl

@[simp]
theorem baseOf_cons
    (entry : Pending)
    (beneath : List Pending) :
    baseOf (entry :: beneath) = entry.base := rfl

end Pending

namespace Machine

theorem topBase_eq (machine : Machine) :
    machine.topBase = Pending.baseOf machine.pending.entries := rfl

/--
What carrying out an operator can come to.  It wants an operand of its own on
either side, and with both at hand only a zero divisor stops it.
-/
inductive Reduces
    (context : Context)
    (symbol : Operator)
    (position base floor : Nat) :
    Machine → Reaction Unit → Prop where
  | missingLeft {machine : Machine} :
      base ≤ floor →
      Reduces context symbol position base floor machine
        (.failed machine (.missingLeft symbol position))
  | missingRight {machine : Machine} :
      floor < base →
      machine.operands.size ≤ base →
      Reduces context symbol position base floor machine
        (.failed machine (.missingRight symbol position))
  | divisionByZero
      {left right : Decimal}
      {beneath : List Decimal}
      {pending : Stack Pending} :
      floor < base →
      base < beneath.length + 2 →
      symbol = .div →
      right.isZero →
      Reduces context symbol position base floor ⟨⟨right :: left :: beneath⟩, pending⟩
        (.failed ⟨⟨beneath⟩, pending⟩ (.divisionByZero position))
  | result
      {left right : Decimal}
      {beneath : List Decimal}
      {pending : Stack Pending} :
      floor < base →
      base < beneath.length + 2 →
      ¬ (symbol = .div ∧ right.isZero) →
      Reduces context symbol position base floor ⟨⟨right :: left :: beneath⟩, pending⟩
        ⟨⟨⟨symbol.apply context left right :: beneath⟩, pending⟩,
          [⟨.reduce symbol position left right (symbol.apply context left right),
            ⟨⟨symbol.apply context left right :: beneath⟩, pending⟩⟩],
          .ok ()⟩

/-- Carrying out an operator leaves the other pending entries as they are. -/
theorem Reduces.pending_eq
    {context : Context}
    {symbol : Operator}
    {position base floor : Nat}
    {machine : Machine}
    {reaction : Reaction Unit}
    (reduces : Reduces context symbol position base floor machine reaction) :
    reaction.machine.pending = machine.pending := by
  cases reduces with
  | missingLeft _ => rfl
  | missingRight _ _ => rfl
  | divisionByZero _ _ _ _ => rfl
  | result _ _ _ => rfl

/-- The two guards leave at least two operands, so that the last branch is never taken. -/
theorem reduces_reduce
    (context : Context)
    (symbol : Operator)
    (position base floor : Nat)
    (machine : Machine) :
    Reduces context symbol position base floor machine
      (reduce context symbol position base floor machine) := by
  rcases machine with ⟨⟨operands⟩, pending⟩
  unfold reduce
  split
  · rename_i noLeft
    exact .missingLeft noLeft
  · rename_i hasLeft
    split
    · rename_i noRight
      exact .missingRight (by omega) noRight
    · rename_i hasRight
      simp only [Stack.size] at hasRight
      rcases operands with _ | ⟨right, _ | ⟨left, beneath⟩⟩
      · simp at hasRight
      · simp only [List.length_singleton] at hasRight
        omega
      · simp only [List.length_cons] at hasRight
        dsimp only
        split
        · rename_i zeroDivisor
          exact .divisionByZero (by omega) (by omega) zeroDivisor.1 zeroDivisor.2
        · rename_i defined
          exact .result (by omega) (by omega) defined

/-- The topmost entry is no operator that is ready. -/
def Stopped
    (ready : Operator → Bool)
    (entries : List Pending) :
    Prop :=
  ∀ symbol position base floor beneath,
    entries = .operator symbol position base floor :: beneath → ready symbol = false

/-- What carrying out each operator preserves is preserved by carrying out all that are ready. -/
theorem reduceWhile_ensures
    {context : Context}
    {ready : Operator → Bool}
    (success : Stack Decimal → List Pending → Prop)
    {failure : Machine → Failure → Prop}
    (each :
      ∀ operands symbol position base floor beneath,
        success operands (.operator symbol position base floor :: beneath) →
          (reduce context symbol position base floor ⟨operands, ⟨beneath⟩⟩).Ensures
            (fun after _ => success after.operands beneath) failure)
    {operands : Stack Decimal}
    {entries : List Pending}
    (before : success operands entries) :
    (reduceWhile context ready operands entries).Ensures
      (fun after _ =>
        success after.operands after.pending.entries ∧ Stopped ready after.pending.entries)
      failure := by
  induction entries generalizing operands with
  | nil =>
    refine Reaction.ensures_settled.mpr ⟨before, ?_⟩
    intro _ _ _ _ _ impossible
    cases impossible
  | cons entry beneath inner =>
    cases entry with
    | group position base =>
      refine Reaction.ensures_settled.mpr ⟨before, ?_⟩
      intro _ _ _ _ _ impossible
      cases impossible
    | operator symbol position base floor =>
      unfold reduceWhile
      split
      · exact (each _ _ _ _ _ _ before).andThen fun _ _ reduced => inner reduced
      · rename_i notReady
        refine Reaction.ensures_settled.mpr ⟨before, ?_⟩
        intro _ _ _ _ _ equal
        cases equal
        simpa using notReady

end Machine

end InfixCalc
