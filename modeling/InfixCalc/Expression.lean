import InfixCalc.Machine

/-!
# Expressions

An expression is a tree: a literal, a group, or an operator between two
expressions.  `Derives` says which tree a list of tokens stands for: a sum is
made of products, a product of factors, and operators of one rank group from
left to right.  The value of a tree is computed from the leaves up, the left
side before the right side.

Nothing here knows of stacks.  The main statement is that a derivation accounts
for every token: the tokens of the tree are the tokens that it was derived from.
-/

namespace InfixCalc

/-- An expression as a tree; every leaf, operator and parenthesis has its position. -/
inductive Expression where
  | literal (value : Decimal) (written : Text) (position : Nat)
  | group (opening closing : Nat) (inner : Expression)
  | binary (symbol : Operator) (position : Nat) (left right : Expression)
  deriving DecidableEq, Repr

namespace Expression

/-- The tokens of a tree from left to right. -/
def tokens : Expression → List Token
  | literal value written position => [⟨.number value written, position⟩]
  | group opening closing inner =>
    ⟨.openGroup, opening⟩ :: (inner.tokens ++ [⟨.closeGroup, closing⟩])
  | binary symbol position left right =>
    left.tokens ++ ⟨.operator symbol, position⟩ :: right.tokens

/-- The result of one operator, which a zero divisor does not have. -/
def combine
    (context : Context)
    (symbol : Operator)
    (position : Nat)
    (left right : Decimal) :
    Except Failure Decimal :=
  if symbol = .div ∧ right.isZero then .error (.divisionByZero position)
  else .ok (symbol.apply context left right)

/-- The value of a tree, each node rounded, or the first division by zero. -/
def value? (context : Context) : Expression → Except Failure Decimal
  | literal value _ _ => .ok value
  | group _ _ inner => inner.value? context
  | binary symbol position left right =>
    match left.value? context with
    | .error failure => .error failure
    | .ok leftValue =>
      match right.value? context with
      | .error failure => .error failure
      | .ok rightValue => combine context symbol position leftValue rightValue

/-- The operators that are carried out, in their order, up to a division by zero. -/
def reductions (context : Context) : Expression → List Action
  | literal _ _ _ => []
  | group _ _ inner => inner.reductions context
  | binary symbol position left right =>
    left.reductions context ++
      match left.value? context with
      | .error _ => []
      | .ok leftValue =>
        right.reductions context ++
          match right.value? context with
          | .error _ => []
          | .ok rightValue =>
            match combine context symbol position leftValue rightValue with
            | .error _ => []
            | .ok result => [.reduce symbol position leftValue rightValue result]

theorem tokens_ne_nil (expression : Expression) : expression.tokens ≠ [] := by
  cases expression <;> simp [tokens]

end Expression

/-- The levels of the grammar. -/
inductive Level where
  | sum
  | product
  | factor
  deriving DecidableEq, Repr

/-- The tokens form the expression at the level. -/
inductive Derives : Level → List Token → Expression → Prop where
  | ofProduct
      {tokens : List Token}
      {expression : Expression} :
      Derives .product tokens expression →
      Derives .sum tokens expression
  | sum
      {leftTokens rightTokens : List Token}
      {left right : Expression}
      {symbol : Operator}
      {position : Nat} :
      symbol.rank = 1 →
      Derives .sum leftTokens left →
      Derives .product rightTokens right →
      Derives .sum (leftTokens ++ ⟨.operator symbol, position⟩ :: rightTokens)
        (.binary symbol position left right)
  | ofFactor
      {tokens : List Token}
      {expression : Expression} :
      Derives .factor tokens expression →
      Derives .product tokens expression
  | product
      {leftTokens rightTokens : List Token}
      {left right : Expression}
      {symbol : Operator}
      {position : Nat} :
      symbol.rank = 2 →
      Derives .product leftTokens left →
      Derives .factor rightTokens right →
      Derives .product (leftTokens ++ ⟨.operator symbol, position⟩ :: rightTokens)
        (.binary symbol position left right)
  | literal
      {value : Decimal}
      {written : Text}
      {position : Nat} :
      Derives .factor [⟨.number value written, position⟩] (.literal value written position)
  | group
      {tokens : List Token}
      {inner : Expression}
      {opening closing : Nat} :
      Derives .sum tokens inner →
      Derives .factor (⟨.openGroup, opening⟩ :: (tokens ++ [⟨.closeGroup, closing⟩]))
        (.group opening closing inner)

namespace Derives

theorem tokens_eq
    {level : Level}
    {tokens : List Token}
    {expression : Expression}
    (derives : Derives level tokens expression) :
    expression.tokens = tokens := by
  induction derives with
  | ofProduct _ inner => exact inner
  | ofFactor _ inner => exact inner
  | sum _ _ _ left right => simp [Expression.tokens, left, right]
  | product _ _ _ left right => simp [Expression.tokens, left, right]
  | literal => rfl
  | group _ inner => simp [Expression.tokens, inner]

theorem ne_nil
    {level : Level}
    {tokens : List Token}
    {expression : Expression}
    (derives : Derives level tokens expression) :
    tokens ≠ [] := by
  rw [← derives.tokens_eq]
  exact expression.tokens_ne_nil

end Derives

/-- The tokens are an expression. -/
def IsExpression (tokens : List Token) : Prop :=
  ∃ expression, Derives .sum tokens expression

end InfixCalc
