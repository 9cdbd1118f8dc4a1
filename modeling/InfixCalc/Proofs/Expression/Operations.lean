import InfixCalc.Proofs.Expression.Value
import Mathlib.Data.List.TakeWhile

/-!
# Operators of a tree in their order

Every operator node of a tree, the nodes of both sides before the node between
them, with what the two sides come to.  A run carries these operators out in
this order and stops before the first one that divides by zero.
-/

namespace InfixCalc

/-- An operator node with the values of its sides and its own. -/
structure Operation where
  symbol : Operator
  position : Nat
  left : Decimal
  right : Decimal
  result : Decimal
  deriving DecidableEq, Repr

namespace Operation

/-- Anything but a division by zero. -/
def isDefined (operation : Operation) : Bool :=
  !decide (operation.symbol = .div ∧ operation.right.isZero)

/-- What the machine does to carry the operator out. -/
def toAction (operation : Operation) : Action :=
  .reduce operation.symbol operation.position operation.left operation.right operation.result

end Operation

namespace Expression

/-- The operator at the root of a tree with the given sides. -/
def operation
    (context : Context)
    (symbol : Operator)
    (position : Nat)
    (left right : Expression) :
    Operation :=
  ⟨symbol, position, left.total context, right.total context,
    symbol.apply context (left.total context) (right.total context)⟩

/-- All operators of a tree, those of the left side, those of the right side, its own. -/
def operations (context : Context) : Expression → List Operation
  | literal _ _ _ => []
  | group _ _ inner => inner.operations context
  | binary symbol position left right =>
    left.operations context ++ right.operations context
      ++ [operation context symbol position left right]

variable {context : Context}

/-- The zero divisions of a tree are the operators that are not defined. -/
theorem zeroDivisions_eq_nil_iff
    {expression : Expression} :
    expression.zeroDivisions context = [] ↔
      ∀ operation ∈ expression.operations context, operation.isDefined := by
  induction expression with
  | literal value written position => simp [zeroDivisions, operations]
  | group opening closing inner holds => exact holds
  | binary symbol position left right leftHolds rightHolds =>
    simp only [zeroDivisions, operations, List.append_eq_nil_iff, leftHolds, rightHolds,
      List.forall_mem_append, List.forall_mem_singleton]
    apply and_congr Iff.rfl
    by_cases zero : symbol = .div ∧ (right.total context).isZero
    · simp [Operation.isDefined, operation, zero]
    · rw [if_neg zero, Operation.isDefined, operation, decide_eq_false zero]
      simp

/-- A tree has its total as value if all of its operators are defined, and no value else. -/
theorem value?_eq_ok_iff
    {expression : Expression}
    {value : Decimal} :
    expression.value? context = .ok value ↔
      expression.total context = value ∧
        ∀ operation ∈ expression.operations context, operation.isDefined := by
  rw [value?_eq, ← zeroDivisions_eq_nil_iff]
  cases expression.zeroDivisions context <;> simp

theorem value?_eq_error
    {expression : Expression}
    (undefined : ¬ ∀ operation ∈ expression.operations context, operation.isDefined) :
    ∃ problem, expression.value? context = .error problem := by
  cases found : expression.value? context with
  | error problem => exact ⟨problem, rfl⟩
  | ok value => exact absurd (value?_eq_ok_iff.mp found).2 undefined

theorem takeWhile_append_of_stopped
    {α : Type}
    {keeps : α → Bool}
    {first : List α}
    (stopped : ¬ ∀ member ∈ first, keeps member)
    (second : List α) :
    (first ++ second).takeWhile keeps = first.takeWhile keeps := by
  rw [List.takeWhile_append, if_neg]
  intro whole
  exact stopped (List.takeWhile_eq_self_iff.mp ((List.takeWhile_prefix keeps).eq_of_length whole))

/-- A tree is carried out in the order of its operators, up to the first one not defined. -/
theorem reductions_eq_takeWhile
    (context : Context)
    (expression : Expression) :
    expression.reductions context
      = ((expression.operations context).takeWhile Operation.isDefined).map
          Operation.toAction := by
  induction expression with
  | literal value written position => rfl
  | group opening closing inner holds => exact holds
  | binary symbol position left right leftHolds rightHolds =>
    rw [reductions, leftHolds, operations, List.append_assoc]
    -- The right side is reached only if the left side has a value, the root only if both have.
    by_cases leftDefined : ∀ operation ∈ left.operations context, operation.isDefined
    · have leftValue := value?_eq_ok_iff.mpr ⟨rfl, leftDefined⟩
      rw [leftValue, List.takeWhile_append_of_pos leftDefined,
        List.takeWhile_eq_self_iff.mpr leftDefined, List.map_append]
      dsimp only
      rw [rightHolds]
      congr 1
      by_cases rightDefined : ∀ operation ∈ right.operations context, operation.isDefined
      · have rightValue := value?_eq_ok_iff.mpr ⟨rfl, rightDefined⟩
        rw [rightValue, List.takeWhile_append_of_pos rightDefined,
          List.takeWhile_eq_self_iff.mpr rightDefined, List.map_append]
        congr 1
        by_cases zero : symbol = .div ∧ (right.total context).isZero
        · simp [combine, Operation.isDefined, operation, zero]
        · simp only [combine, if_neg zero, List.takeWhile_cons, Operation.isDefined, operation,
            decide_eq_false zero]
          rfl
      · rcases value?_eq_error rightDefined with ⟨problem, failed⟩
        rw [failed, takeWhile_append_of_stopped rightDefined, List.append_nil]
    · rcases value?_eq_error leftDefined with ⟨problem, failed⟩
      rw [failed, takeWhile_append_of_stopped leftDefined, List.append_nil]

end Expression

end InfixCalc
