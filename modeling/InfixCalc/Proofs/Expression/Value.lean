import InfixCalc.Expression
import InfixCalc.Proofs.Machine.Account

/-!
# Values of expressions

Two descriptions of what a tree comes to.  The account of a tree carries out the
left side, the right side and then the operator itself, and stops at the first
division by zero.  The other description never stops: `total` carries out every
operator, and `zeroDivisions` lists the divisions with a zero divisor in the
same order.  A tree has its total as a value unless that list has a first entry.
-/

namespace InfixCalc.Expression

/-! ## Accounts -/

/-- The operators of a tree that are carried out, and the value that they lead to. -/
def account
    (context : Context)
    (expression : Expression) :
    Account Decimal :=
  ⟨expression.reductions context, expression.value? context⟩

/-- The account of a single operator. -/
def combineAccount
    (context : Context)
    (symbol : Operator)
    (position : Nat)
    (left right : Decimal) :
    Account Decimal :=
  match combine context symbol position left right with
  | .error failure => ⟨[], .error failure⟩
  | .ok result => ⟨[.reduce symbol position left right result], .ok result⟩

@[simp]
theorem account_literal
    (context : Context)
    (value : Decimal)
    (written : Text)
    (position : Nat) :
    (literal value written position).account context = .settled value := rfl

@[simp]
theorem account_group
    (context : Context)
    (opening closing : Nat)
    (inner : Expression) :
    (group opening closing inner).account context = inner.account context := rfl

/-- The left side comes first, then the right side, then the operator itself. -/
theorem account_binary
    (context : Context)
    (symbol : Operator)
    (position : Nat)
    (left right : Expression) :
    (binary symbol position left right).account context
      = (left.account context).andThen fun leftValue =>
          (right.account context).andThen fun rightValue =>
            combineAccount context symbol position leftValue rightValue := by
  unfold account
  rw [reductions, value?]
  cases left.value? context with
  | error failure => simp [Account.andThen]
  | ok leftValue =>
    cases right.value? context with
    | error failure => simp [Account.andThen]
    | ok rightValue =>
      simp only [Account.andThen, combineAccount]
      cases combine context symbol position leftValue rightValue <;> simp

/-! ## Totals -/

/-- What a tree comes to if every operator is carried out, also on a zero divisor. -/
def total (context : Context) : Expression → Decimal
  | literal value _ _ => value
  | group _ _ inner => inner.total context
  | binary symbol _ left right =>
    symbol.apply context (left.total context) (right.total context)

/-- The divisions whose right side comes to zero: those of the left side, of the right, its own. -/
def zeroDivisions (context : Context) : Expression → List Nat
  | literal _ _ _ => []
  | group _ _ inner => inner.zeroDivisions context
  | binary symbol position left right =>
    left.zeroDivisions context ++ right.zeroDivisions context ++
      if symbol = .div ∧ (right.total context).isZero then [position] else []

/-- A tree has its total as value, or the first division by zero is to blame. -/
theorem value?_eq
    (context : Context)
    (expression : Expression) :
    expression.value? context =
      match (expression.zeroDivisions context).head? with
      | none => .ok (expression.total context)
      | some position => .error (.divisionByZero position) := by
  induction expression with
  | literal value written position => rfl
  | group opening closing inner holds => exact holds
  | binary symbol position left right leftHolds rightHolds =>
    rw [value?, leftHolds, zeroDivisions]
    rcases left.zeroDivisions context with _ | ⟨first, later⟩
    · simp only [List.head?_nil, List.nil_append]
      rw [rightHolds]
      rcases right.zeroDivisions context with _ | ⟨first, later⟩
      · simp only [List.head?_nil, List.nil_append, combine]
        split <;> rfl
      · rfl
    · rfl

end InfixCalc.Expression
