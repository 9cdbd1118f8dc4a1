import InfixCalc.Proofs.Token.Adjacency

/-!
# What operands tokens leave

`Leaves` says how many operands a list of tokens leaves once every operator in
it has been carried out: a number leaves one, a group what its inside leaves,
two lists side by side what both leave, and an operator makes one of the two
values that it stands between.

It does not ask which values an operator takes.  The main statement is that the
count is a matter of neighbours alone: one operand, and one more for each place
where two values stand side by side.
-/

namespace InfixCalc.Token

/-- The tokens leave so many operands. -/
inductive Leaves : List Token → Nat → Prop where
  | nothing : Leaves [] 0
  | number
      {value : Decimal}
      {written : Text}
      {position : Nat} :
      Leaves [⟨.number value written, position⟩] 1
  | group
      {tokens : List Token}
      {opening closing surplus : Nat} :
      Leaves tokens (surplus + 1) →
      Leaves (⟨.openGroup, opening⟩ :: (tokens ++ [⟨.closeGroup, closing⟩])) (surplus + 1)
  | beside
      {first second : List Token}
      {firstSurplus secondSurplus : Nat} :
      Leaves first (firstSurplus + 1) →
      Leaves second (secondSurplus + 1) →
      Leaves (first ++ second) (firstSurplus + secondSurplus + 2)
  | operator
      {left right : List Token}
      {symbol : Operator}
      {position leftSurplus rightSurplus : Nat} :
      Leaves left (leftSurplus + 1) →
      Leaves right (rightSurplus + 1) →
      Leaves (left ++ ⟨.operator symbol, position⟩ :: right) (leftSurplus + rightSurplus + 1)

namespace Leaves

theorem eq_nil
    {tokens : List Token}
    (leaves : Leaves tokens 0) :
    tokens = [] := by
  cases leaves
  rfl

/-- Side by side, also where there is nothing on one of the sides. -/
theorem append
    {first second : List Token}
    {firstCount secondCount : Nat}
    (left : Leaves first firstCount)
    (right : Leaves second secondCount) :
    Leaves (first ++ second) (firstCount + secondCount) := by
  cases firstCount with
  | zero =>
    rw [left.eq_nil, Nat.zero_add]
    exact right
  | succ firstSurplus =>
    cases secondCount with
    | zero =>
      rw [right.eq_nil, List.append_nil]
      exact left
    | succ secondSurplus =>
      have both := left.beside right
      rwa [show firstSurplus + 1 + (secondSurplus + 1) = firstSurplus + secondSurplus + 2
        by omega]

/-- Whatever leaves operands closes all groups that it opens, and only those. -/
theorem openAfter?_eq
    {tokens : List Token}
    {count : Nat}
    (leaves : Leaves tokens count)
    (depth : Nat) :
    openAfter? depth tokens = some depth := by
  induction leaves generalizing depth with
  | nothing => rfl
  | number => rfl
  | group _ inner =>
    rw [openAfter?_cons, Lexeme.openAfter?, Option.bind_some, openAfter?_append, inner]
    rfl
  | beside _ _ first second =>
    rw [openAfter?_append, first, Option.bind_some, second]
  | operator _ _ left right =>
    rw [openAfter?_append, left, Option.bind_some, openAfter?_cons, Lexeme.openAfter?,
      Option.bind_some, right]

theorem balanced
    {tokens : List Token}
    {count : Nat}
    (leaves : Leaves tokens count) :
    Balanced tokens :=
  leaves.openAfter?_eq 0

/-! ## Neighbours -/

end Leaves

theorem connected_number
    {value : Decimal}
    {written : Text}
    {position : Nat} :
    Connected [⟨.number value written, position⟩] :=
  ⟨List.isChain_singleton _, ⟨_, rfl, rfl⟩, ⟨_, rfl, rfl⟩⟩

theorem Connected.group
    {tokens : List Token}
    {opening closing : Nat}
    (connected : Connected tokens) :
    Connected (⟨.openGroup, opening⟩ :: (tokens ++ [⟨.closeGroup, closing⟩])) := by
  rcases connected with ⟨chain, ⟨first, head, begins⟩, ⟨last, final, ends⟩⟩
  refine ⟨?_, ⟨_, rfl, rfl⟩, ⟨⟨.closeGroup, closing⟩, by simp [List.getLast?_cons], rfl⟩⟩
  refine List.isChain_cons.mpr ⟨?_, List.isChain_append.mpr ⟨chain, List.isChain_singleton _, ?_⟩⟩
  · intro next isNext
    rw [List.head?_append, head] at isNext
    cases isNext
    exact Lexeme.openGroup_admits begins
  · intro previous isPrevious next isNext
    rw [final] at isPrevious
    cases isPrevious
    cases isNext
    exact Lexeme.admits_closeGroup ends

theorem Connected.beside
    {first second : List Token}
    (left : Connected first)
    (right : Connected second) :
    Connected (first ++ second) := by
  rcases left with ⟨leftChain, ⟨firstToken, head, begins⟩, ⟨innerLast, innerFinal, innerEnds⟩⟩
  rcases right with ⟨rightChain, ⟨innerFirst, innerHead, innerBegins⟩, ⟨last, final, ends⟩⟩
  refine ⟨List.isChain_append.mpr ⟨leftChain, rightChain, ?_⟩,
    ⟨firstToken, by rw [List.head?_append, head]; rfl, begins⟩,
    ⟨last, by rw [List.getLast?_append, final]; rfl, ends⟩⟩
  intro previous isPrevious next isNext
  rw [innerFinal] at isPrevious
  rw [innerHead] at isNext
  cases isPrevious
  cases isNext
  exact Lexeme.admits_of_values innerEnds innerBegins

theorem Connected.operator
    {left right : List Token}
    {symbol : Operator}
    {position : Nat}
    (leftConnected : Connected left)
    (rightConnected : Connected right) :
    Connected (left ++ ⟨.operator symbol, position⟩ :: right) := by
  rcases leftConnected with ⟨leftChain, ⟨first, head, begins⟩, ⟨innerLast, innerFinal, innerEnds⟩⟩
  rcases rightConnected with ⟨rightChain, ⟨innerFirst, innerHead, innerBegins⟩, ⟨last, final, ends⟩⟩
  refine ⟨List.isChain_append.mpr ⟨leftChain, List.isChain_cons.mpr ⟨?_, rightChain⟩, ?_⟩,
    ⟨first, by rw [List.head?_append, head]; rfl, begins⟩,
    ⟨last, by rw [List.getLast?_append, List.getLast?_cons, final]; rfl, ends⟩⟩
  · intro next isNext
    rw [innerHead] at isNext
    cases isNext
    exact innerBegins
  · intro previous isPrevious next isNext
    rw [innerFinal] at isPrevious
    cases isPrevious
    cases isNext
    rw [Lexeme.admits_operator_right]
    exact innerEnds

namespace Leaves

/-- Tokens that leave an operand at all run from the beginning of a value to the end of one. -/
theorem connected
    {tokens : List Token}
    {count : Nat}
    (leaves : Leaves tokens count)
    (positive : count ≠ 0) :
    Connected tokens := by
  induction leaves with
  | nothing => exact (positive rfl).elim
  | number => exact connected_number
  | group _ inner => exact (inner (by omega)).group
  | beside _ _ first second => exact (first (by omega)).beside (second (by omega))
  | operator _ _ left right => exact (left (by omega)).operator (right (by omega))

/-- One operand, and one more for each place where two values stand side by side. -/
theorem juxtapositions_add_one
    {tokens : List Token}
    {count : Nat}
    (leaves : Leaves tokens count)
    (positive : count ≠ 0) :
    juxtapositions tokens + 1 = count := by
  induction leaves with
  | nothing => exact (positive rfl).elim
  | number => rfl
  | group _ inner =>
    have counted := inner (by omega)
    rw [juxtapositions_cons, juxtapositions_append]
    simpa [seam, Lexeme.endsValue, Lexeme.beginsValue, juxtapositions_cons] using counted
  | beside leftLeaves rightLeaves left right =>
    have leftCounted := left (by omega)
    have rightCounted := right (by omega)
    rcases leftLeaves.connected (by omega) with ⟨_, _, ⟨last, final, ends⟩⟩
    rcases rightLeaves.connected (by omega) with ⟨_, ⟨first, head, begins⟩, _⟩
    rw [juxtapositions_append, final, head]
    simp only [seam, Option.any_some, ends, begins, Bool.and_self, if_true]
    omega
  | operator leftLeaves rightLeaves left right =>
    have leftCounted := left (by omega)
    have rightCounted := right (by omega)
    rw [juxtapositions_append, juxtapositions_cons]
    simp [seam, Lexeme.endsValue, Lexeme.beginsValue]
    omega

end Leaves

end InfixCalc.Token
