import InfixCalc.Proofs.Expression.Value
import InfixCalc.Proofs.Machine.Layers

/-!
# The machine follows the tree

Fed the tokens of a tree, the machine carries out the operators of the tree in
the order in which the tree is evaluated, stops at the same division by zero,
and else has gained the value of the tree as an operand.

The machine need not be a fresh one.  It is enough that what is pending binds
less tightly than the level of the grammar at which the tokens are read, and
the operators that are pending after the last token may wait for as long as the
level says.  In this form the statement is preserved by every rule of the
grammar.
-/

namespace InfixCalc

/-- The rank of the operators at a level; a factor is above all of them. -/
def Level.rank : Level → Nat
  | sum => 1
  | product => 2
  | factor => 3

namespace Machine

open Pending (baseOf rankOf)

variable {context : Context}

/-- With an operand of its own on either side, an operator does what it does in a tree. -/
theorem account_reduce
    {symbol : Operator}
    {position base floor : Nat}
    {left right : Decimal}
    {operands : Stack Decimal}
    {pending : Stack Pending}
    (hasLeft : floor < base)
    (hasRight : base < operands.size + 2) :
    (reduce context symbol position base floor
        ⟨(operands.push left).push right, pending⟩).account
      = (Expression.combineAccount context symbol position left right).andThen fun result =>
          .settled (⟨operands.push result, pending⟩, ()) := by
  have reduces :=
    reduces_reduce context symbol position base floor ⟨(operands.push left).push right, pending⟩
  generalize reduce context symbol position base floor ⟨(operands.push left).push right, pending⟩
    = reaction at reduces ⊢
  rw [Expression.combineAccount, Expression.combine]
  cases reduces with
  | missingLeft noLeft => exact (Nat.not_le.mpr hasLeft noLeft).elim
  | missingRight _ noRight => exact (Nat.not_le.mpr hasRight noRight).elim
  | divisionByZero _ _ division zero =>
    rw [if_pos ⟨division, zero⟩]
    rfl
  | result _ _ defined =>
    rw [if_neg defined]
    rfl

/-- Nothing is carried out where what is pending binds less tightly. -/
theorem reduceWhile_of_rankOf_lt
    {symbol : Operator}
    {operands : Stack Decimal}
    {entries : List Pending}
    (looser : rankOf entries < symbol.rank) :
    reduceWhile context (fun top => symbol.rank ≤ top.rank) operands entries
      = .settled ⟨operands, ⟨entries⟩⟩ () := by
  rcases entries with _ | ⟨⟨upper, _, _, _⟩ | _, _⟩
  · rfl
  · have notReady : ¬ symbol.rank ≤ upper.rank := Nat.not_le.mpr looser
    simp [reduceWhile, notReady]
  · rfl

/-- A group that has gained an operand can be closed. -/
theorem closeGroup_of_base_lt
    {token : Token}
    {operands : Stack Decimal}
    {position base : Nat}
    {beneath : List Pending}
    (filled : base < operands.size) :
    closeGroup token ⟨operands, ⟨.group position base :: beneath⟩⟩
      = shifted token ⟨operands, ⟨beneath⟩⟩ := by
  exact if_neg (Nat.not_le.mpr filled)

/-! ## Feeding a list token by token -/

section

variable
    {machine : Machine}
    {position : Nat}
    {rest : List Token}

theorem feedAll_openGroup :
    feedAll context machine (⟨.openGroup, position⟩ :: rest)
      = (shifted ⟨.openGroup, position⟩ (pushGroup position machine)).andThen fun after _ =>
          feedAll context after rest := rfl

theorem feedAll_closeGroup :
    feedAll context machine (⟨.closeGroup, position⟩ :: rest)
      = (reduceGroup context machine).andThen fun reduced _ =>
          (closeGroup ⟨.closeGroup, position⟩ reduced).andThen fun after _ =>
            feedAll context after rest := by
  simp only [feedAll, feed, Reaction.andThen_assoc]

theorem feedAll_operator
    {symbol : Operator} :
    feedAll context machine (⟨.operator symbol, position⟩ :: rest)
      = (reduceTighter context symbol machine).andThen fun reduced _ =>
          (shifted ⟨.operator symbol, position⟩ (pushOperator symbol position reduced)).andThen
            fun after _ => feedAll context after rest := by
  simp only [feedAll, feed, Reaction.andThen_assoc]

end

/-! ## Simulation -/

/--
The tokens work on the machine as the tree evaluates: whatever waits beneath,
and whichever operators of the level are carried out at the end.
-/
def Simulates
    (context : Context)
    (level : Level)
    (tokens : List Token)
    (expression : Expression) :
    Prop :=
  ∀ (operands : Stack Decimal) (entries : List Pending) (ready : Operator → Bool),
    baseOf entries ≤ operands.size →
    rankOf entries < level.rank →
    (∀ symbol : Operator, level.rank ≤ symbol.rank → ready symbol = true) →
    ((feedAll context ⟨operands, ⟨entries⟩⟩ tokens).andThen fun after _ =>
        reduceWhile context ready after.operands after.pending.entries).account
      = (expression.account context).andThen fun value =>
          (reduceWhile context ready (operands.push value) entries).account

namespace Simulates

/-- What is read at a level may be read at a lower one. -/
theorem lower
    {level lowerLevel : Level}
    {tokens : List Token}
    {expression : Expression}
    (simulates : Simulates context level tokens expression)
    (below : lowerLevel.rank ≤ level.rank) :
    Simulates context lowerLevel tokens expression := by
  intro operands entries ready based looser accepts
  have looserStill := Nat.lt_of_lt_of_le looser below
  exact simulates operands entries ready based looserStill fun symbol tight =>
    accepts symbol (Nat.le_trans below tight)

theorem literal
    {value : Decimal}
    {written : Text}
    {position : Nat} :
    Simulates context .factor [⟨.number value written, position⟩]
      (.literal value written position) := by
  intro operands entries ready _ _ _
  rw [Reaction.account_andThen, Expression.account_literal, Account.settled_andThen]
  rfl

/-- The parenthesis keeps what is beneath it from being carried out. -/
theorem group
    {tokens : List Token}
    {inner : Expression}
    {opening closing : Nat}
    (simulates : Simulates context .sum tokens inner) :
    Simulates context .factor (⟨.openGroup, opening⟩ :: (tokens ++ [⟨.closeGroup, closing⟩]))
      (.group opening closing inner) := by
  intro operands entries ready _ _ _
  have inside := simulates operands (.group opening operands.size :: entries) (fun _ => true)
    (Nat.le_refl _) Nat.one_pos fun _ _ => rfl
  rw [feedAll_openGroup, Reaction.andThen_assoc, Reaction.account_andThen, account_shifted,
    Account.settled_andThen, feedAll_append, Reaction.andThen_assoc]
  simp only [feedAll_closeGroup, Reaction.andThen_assoc, reduceGroup, pushGroup, Stack.push]
  rw [← Reaction.andThen_assoc, Reaction.account_andThen, inside, Account.andThen_assoc,
    Expression.account_group]
  congr 1
  funext value
  have filled : operands.size < (operands.push value).size := Nat.lt_succ_self _
  rw [reduceWhile, Reaction.account_settled, Account.settled_andThen,
    closeGroup_of_base_lt filled, Reaction.account_andThen, account_shifted,
    Account.settled_andThen]
  rfl

/-- An operator waits for its right side, which binds tighter, and is carried out after it. -/
theorem binary
    {level higher : Level}
    {leftTokens rightTokens : List Token}
    {left right : Expression}
    {symbol : Operator}
    {position : Nat}
    (rank : symbol.rank = level.rank)
    (tighter : level.rank < higher.rank)
    (leftSimulates : Simulates context level leftTokens left)
    (rightSimulates : Simulates context higher rightTokens right) :
    Simulates context level (leftTokens ++ ⟨.operator symbol, position⟩ :: rightTokens)
      (.binary symbol position left right) := by
  intro operands entries ready based looser accepts
  have leftFirst := leftSimulates operands entries (fun top => symbol.rank ≤ top.rank) based looser
    fun upper tight => decide_eq_true (Nat.le_trans (Nat.le_of_eq rank) tight)
  rw [feedAll_append, Reaction.andThen_assoc]
  simp only [feedAll_operator, Reaction.andThen_assoc]
  rw [← Reaction.andThen_assoc, Reaction.account_andThen]
  unfold reduceTighter
  rw [leftFirst, Account.andThen_assoc, Expression.account_binary, Account.andThen_assoc]
  congr 1
  funext leftValue
  have rightNext := rightSimulates (operands.push leftValue)
    (.operator symbol position (operands.push leftValue).size (baseOf entries) :: entries) ready
    (Nat.le_refl _) (Nat.lt_of_le_of_lt (Nat.le_of_eq rank) tighter)
    fun upper tight => accepts upper (Nat.le_trans (Nat.le_of_lt tighter) tight)
  rw [reduceWhile_of_rankOf_lt (rank ▸ looser), Reaction.account_settled, Account.settled_andThen,
    Reaction.account_andThen, account_shifted, Account.settled_andThen]
  refine rightNext.trans ?_
  rw [Account.andThen_assoc]
  congr 1
  funext rightValue
  have isReady : ready symbol = true := accepts symbol (Nat.le_of_eq rank.symm)
  have hasLeft : baseOf entries < (operands.push leftValue).size := Nat.lt_succ_of_le based
  have hasRight : (operands.push leftValue).size < operands.size + 2 := Nat.lt_succ_self _
  rw [reduceWhile, if_pos isReady, Reaction.account_andThen, account_reduce hasLeft hasRight,
    Account.andThen_assoc]
  rfl

end Simulates

/-- Every rule of the grammar preserves the simulation. -/
theorem simulates_of_derives
    {level : Level}
    {tokens : List Token}
    {expression : Expression}
    (derives : Derives level tokens expression) :
    Simulates context level tokens expression := by
  induction derives with
  | ofProduct _ product => exact product.lower (by decide)
  | ofFactor _ factor => exact factor.lower (by decide)
  | sum rank _ _ left right => exact .binary rank (by decide) left right
  | product rank _ _ left right => exact .binary rank (by decide) left right
  | literal => exact .literal
  | group _ inner => exact inner.group

/-- A run on the tokens of a tree carries out the operators of the tree and finds its value. -/
theorem account_run
    {tokens : List Token}
    {expression : Expression}
    (derives : Derives .sum tokens expression) :
    (run context tokens).account
      = (expression.account context).andThen fun value => .settled (initial, value) := by
  have simulates : Simulates context .sum tokens expression := simulates_of_derives derives
  have simulated := simulates .empty [] (fun _ => true) (Nat.le_refl 0) Nat.one_pos fun _ _ => rfl
  rw [run]
  unfold finish reduceGroup
  rw [← Reaction.andThen_assoc, Reaction.account_andThen]
  refine (congrArg (Account.andThen · _) simulated).trans ?_
  rw [Account.andThen_assoc]
  rfl

end Machine

end InfixCalc
