import InfixCalc.Proofs.Machine.Reduction

/-!
# The shape of the pending entries

The pending entries lie in layers on the operands: no entry came earlier than
the one beneath it, an operator knows where its own operands begin, and it
binds tighter than an operator directly beneath it.  `Layered` says so entry by
entry.

A failing call leaves a machine behind that has lost an operator, a parenthesis
or even two operands.  The main statement is that the layers stand after any
history of calls, failed ones among them, and that no call ever finds fewer
operands than its bounds promise.
-/

namespace InfixCalc

namespace Pending

/-- How tightly an entry holds its operands together; a parenthesis does not. -/
def rank : Pending → Nat
  | operator symbol _ _ _ => symbol.rank
  | group _ _ => 0

/-- The rank of the topmost of some entries, zero if there is none. -/
def rankOf (entries : List Pending) : Nat :=
  (entries.head?.map rank).getD 0

/-- The operator that is pending, none for a parenthesis. -/
def symbol? : Pending → Option Operator
  | operator symbol _ _ _ => some symbol
  | group _ _ => none

/-- Whether an operator is pending. -/
def isOperator : Pending → Bool
  | operator _ _ _ _ => true
  | group _ _ => false

/-- Whether a parenthesis is pending. -/
def isGroup : Pending → Bool
  | operator _ _ _ _ => false
  | group _ _ => true

@[simp]
theorem rankOf_nil : rankOf [] = 0 := rfl

@[simp]
theorem rankOf_cons
    (entry : Pending)
    (beneath : List Pending) :
    rankOf (entry :: beneath) = entry.rank := rfl

theorem rankOf_le (entries : List Pending) : rankOf entries ≤ 2 := by
  rcases entries with _ | ⟨⟨symbol, _, _, _⟩ | _, _⟩
  · exact Nat.zero_le 2
  · cases symbol <;> simp [rank, Operator.rank]
  · exact Nat.zero_le 2

end Pending

namespace Machine

open Pending (baseOf rankOf)

/-- The entries, topmost first, lie in layers on so many operands. -/
def Layered : List Pending → Nat → Prop
  | [], _ => True
  | .group _ base :: beneath, size => base ≤ size ∧ Layered beneath base
  | .operator symbol _ base floor :: beneath, size =>
    base ≤ size ∧ floor = baseOf beneath ∧ rankOf beneath < symbol.rank ∧ Layered beneath base

/-- Only the topmost entry sees how many operands there are. -/
theorem Layered.resize
    {entries : List Pending}
    {size other : Nat}
    (layered : Layered entries size)
    (enough : baseOf entries ≤ other) :
    Layered entries other := by
  match entries, layered with
  | [], _ => trivial
  | .group _ _ :: _, ⟨_, rest⟩ => exact ⟨enough, rest⟩
  | .operator _ _ _ _ :: _, ⟨_, rest⟩ => exact ⟨enough, rest⟩

theorem Layered.baseOf_le
    {entries : List Pending}
    {size : Nat}
    (layered : Layered entries size) :
    baseOf entries ≤ size := by
  match entries, layered with
  | [], _ => exact Nat.zero_le size
  | .group _ _ :: _, ⟨bounded, _⟩ => exact bounded
  | .operator _ _ _ _ :: _, ⟨bounded, _⟩ => exact bounded

/-- Without its topmost entry the rest is still in layers, and lies lower. -/
theorem Layered.tail
    {entry : Pending}
    {beneath : List Pending}
    {size : Nat}
    (layered : Layered (entry :: beneath) size) :
    entry.base ≤ size ∧ Layered beneath entry.base := by
  cases entry with
  | group position base => exact layered
  | operator symbol position base floor => exact ⟨layered.1, layered.2.2.2⟩

/-! ## What the layers say of all entries -/

theorem Layered.bases
    {entries : List Pending}
    {size : Nat}
    (layered : Layered entries size) :
    (entries.map Pending.base).Pairwise (· ≥ ·) ∧
      ∀ entry ∈ entries, entry.base ≤ size := by
  induction entries generalizing size with
  | nil => simp
  | cons entry beneath inner =>
    rcases layered.tail with ⟨bounded, rest⟩
    rcases inner rest with ⟨sorted, below⟩
    constructor
    · rw [List.map_cons, List.pairwise_cons]
      refine ⟨?_, sorted⟩
      intro base member
      rcases List.mem_map.mp member with ⟨lower, lowerMember, rfl⟩
      exact below lower lowerMember
    · intro other member
      rcases List.mem_cons.mp member with rfl | lower
      · exact bounded
      · exact Nat.le_trans (below other lower) bounded

theorem Layered.floor_eq
    {above beneath : List Pending}
    {symbol : Operator}
    {position base floor size : Nat}
    (layered : Layered (above ++ .operator symbol position base floor :: beneath) size) :
    floor = baseOf beneath := by
  induction above generalizing size with
  | nil => exact layered.2.1
  | cons entry above inner => exact inner layered.tail.2

/-- From the topmost entry down to a parenthesis, ranks fall. -/
theorem Layered.ranks_of_prefix
    {entries : List Pending}
    {size : Nat}
    {stretch : List Operator}
    (layered : Layered entries size)
    (top : stretch.map some <+: entries.map Pending.symbol?) :
    stretch.Pairwise (fun upper lower => lower.rank < upper.rank) ∧
      ∀ symbol ∈ stretch, symbol.rank ≤ rankOf entries := by
  induction entries generalizing stretch size with
  | nil =>
    have empty : stretch = [] := by simpa using top
    simp [empty]
  | cons entry beneath inner =>
    cases stretch with
    | nil => simp
    | cons symbol rest =>
      rw [List.map_cons, List.map_cons, List.cons_prefix_cons] at top
      rcases top with ⟨same, lowerTop⟩
      cases entry with
      | group position base => cases same
      | operator upper position base floor =>
        cases same
        rcases layered with ⟨_, _, tighter, lowerLayered⟩
        rcases inner lowerLayered lowerTop with ⟨falling, lowerRanks⟩
        constructor
        · refine List.pairwise_cons.mpr ⟨?_, falling⟩
          intro lower member
          exact Nat.lt_of_le_of_lt (lowerRanks lower member) tighter
        · intro other member
          rcases List.mem_cons.mp member with rfl | lower
          · exact Nat.le_refl _
          · exact Nat.le_trans (lowerRanks other lower) (Nat.le_of_lt tighter)

/-- Between two parentheses ranks fall as well. -/
theorem Layered.ranks
    {entries : List Pending}
    {size : Nat}
    {stretch : List Operator}
    (layered : Layered entries size)
    (within : stretch.map some <:+: entries.map Pending.symbol?) :
    stretch.Pairwise (fun upper lower => lower.rank < upper.rank) := by
  induction entries generalizing size with
  | nil =>
    have empty : stretch = [] := by simpa using within
    simp [empty]
  | cons entry beneath inner =>
    rw [List.map_cons, List.infix_cons_iff, ← List.map_cons] at within
    rcases within with top | lower
    · exact (layered.ranks_of_prefix top).1
    · exact inner layered.tail.2 lower

/-- Two ranks leave room for two operators above each parenthesis and beneath all of them. -/
theorem Layered.operators_le
    {entries : List Pending}
    {size : Nat}
    (layered : Layered entries size) :
    entries.countP Pending.isOperator
      ≤ 2 * entries.countP Pending.isGroup + rankOf entries := by
  induction entries generalizing size with
  | nil => simp
  | cons entry beneath inner =>
    have rest := inner layered.tail.2
    cases entry with
    | group position base =>
      have bounded := Pending.rankOf_le beneath
      rw [List.countP_cons_of_neg (by simp [Pending.isOperator]), List.countP_cons_of_pos rfl,
        Pending.rankOf_cons, Pending.rank]
      omega
    | operator symbol position base floor =>
      have tighter : rankOf beneath < symbol.rank := layered.2.2.1
      rw [List.countP_cons_of_pos rfl, List.countP_cons_of_neg (by simp [Pending.isGroup]),
        Pending.rankOf_cons, Pending.rank]
      omega

end Machine

end InfixCalc
