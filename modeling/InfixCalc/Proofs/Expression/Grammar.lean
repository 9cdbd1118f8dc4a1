import InfixCalc.Expression
import InfixCalc.Proofs.Token.Operands

/-!
# Tokens that form an expression

Tokens that leave a single operand form an expression.  An operator may be put
between any two expressions, whatever their ranks: an operator of the higher
rank binds the last factor of the left one and the first of the right one, and
all that stands around them stays where it is.
-/

namespace InfixCalc

open Token (Leaves)

/-- The tokens form some expression at the level. -/
def Forms
    (level : Level)
    (tokens : List Token) :
    Prop :=
  ∃ expression, Derives level tokens expression

namespace Forms

theorem ofFactor
    {tokens : List Token}
    (factor : Forms .factor tokens) :
    Forms .product tokens := by
  rcases factor with ⟨expression, derives⟩
  exact ⟨expression, derives.ofFactor⟩

theorem ofProduct
    {tokens : List Token}
    (product : Forms .product tokens) :
    Forms .sum tokens := by
  rcases product with ⟨expression, derives⟩
  exact ⟨expression, derives.ofProduct⟩

theorem multiply
    {left right : List Token}
    {symbol : Operator}
    (position : Nat)
    (rank : symbol.rank = 2)
    (leftForms : Forms .product left)
    (rightForms : Forms .factor right) :
    Forms .product (left ++ ⟨.operator symbol, position⟩ :: right) := by
  rcases leftForms with ⟨leftTree, leftDerives⟩
  rcases rightForms with ⟨rightTree, rightDerives⟩
  exact ⟨.binary symbol position leftTree rightTree, .product rank leftDerives rightDerives⟩

theorem add
    {left right : List Token}
    {symbol : Operator}
    (position : Nat)
    (rank : symbol.rank = 1)
    (leftForms : Forms .sum left)
    (rightForms : Forms .product right) :
    Forms .sum (left ++ ⟨.operator symbol, position⟩ :: right) := by
  rcases leftForms with ⟨leftTree, leftDerives⟩
  rcases rightForms with ⟨rightTree, rightDerives⟩
  exact ⟨.binary symbol position leftTree rightTree, .sum rank leftDerives rightDerives⟩

/-- A product on the right joins a product on the left: its first factor is taken over. -/
theorem joinProducts
    {left right : List Token}
    {symbol : Operator}
    (position : Nat)
    (rank : symbol.rank = 2)
    (leftForms : Forms .product left)
    (rightForms : Forms .product right) :
    Forms .product (left ++ ⟨.operator symbol, position⟩ :: right) := by
  rcases rightForms with ⟨tree, derives⟩
  generalize isProduct : Level.product = level at derives
  induction derives with
  | ofProduct _ _ => cases isProduct
  | sum _ _ _ _ _ => cases isProduct
  | literal => cases isProduct
  | group _ _ => cases isProduct
  | ofFactor factor _ => exact leftForms.multiply position rank ⟨_, factor⟩
  | @product first second _ _ _ inner innerRank _ factor joined _ =>
    have outer := (joined rfl).multiply inner innerRank ⟨_, factor⟩
    rwa [List.append_assoc, List.cons_append] at outer

/-- A product on the right joins a sum on the left, either as a summand or in its last one. -/
theorem joinProduct
    {left right : List Token}
    {symbol : Operator}
    (position : Nat)
    (leftForms : Forms .sum left)
    (rightForms : Forms .product right) :
    Forms .sum (left ++ ⟨.operator symbol, position⟩ :: right) := by
  have ranks : symbol.rank = 1 ∨ symbol.rank = 2 := by
    cases symbol <;> decide
  rcases ranks with rank | rank
  · exact leftForms.add position rank rightForms
  · rcases leftForms with ⟨tree, derives⟩
    cases derives with
    | ofProduct product =>
      exact (joinProducts position rank ⟨_, product⟩ rightForms).ofProduct
    | @sum first last _ _ _ inner innerRank summands summand =>
      have joined := joinProducts position rank ⟨_, summand⟩ rightForms
      have outer := Forms.add inner innerRank ⟨_, summands⟩ joined
      rwa [List.append_assoc, List.cons_append]

/-- An operator between two sums makes a sum. -/
theorem join
    {left right : List Token}
    {symbol : Operator}
    (position : Nat)
    (leftForms : Forms .sum left)
    (rightForms : Forms .sum right) :
    Forms .sum (left ++ ⟨.operator symbol, position⟩ :: right) := by
  rcases rightForms with ⟨tree, derives⟩
  generalize isSum : Level.sum = level at derives
  induction derives with
  | ofFactor _ _ => cases isSum
  | product _ _ _ _ _ => cases isSum
  | literal => cases isSum
  | group _ _ => cases isSum
  | ofProduct product _ => exact leftForms.joinProduct position ⟨_, product⟩
  | @sum first last _ _ _ inner innerRank _ summand joined _ =>
    have outer := (joined rfl).add inner innerRank ⟨_, summand⟩
    rwa [List.append_assoc, List.cons_append] at outer

end Forms

/-- Tokens that leave a single operand form an expression. -/
theorem Token.Leaves.isExpression
    {tokens : List Token}
    (leaves : Leaves tokens 1) :
    IsExpression tokens := by
  generalize one : 1 = count at leaves
  induction leaves with
  | nothing => cases one
  | number => exact (Forms.ofFactor ⟨_, .literal⟩).ofProduct
  | group _ inner =>
    rcases inner one with ⟨tree, derives⟩
    exact (Forms.ofFactor ⟨_, .group derives⟩).ofProduct
  | beside _ _ _ _ => omega
  | @operator _ _ _ position leftSurplus rightSurplus _ _ left right =>
    have leftForms : Forms .sum _ := left (by omega)
    have rightForms : Forms .sum _ := right (by omega)
    exact leftForms.join position rightForms

end InfixCalc
