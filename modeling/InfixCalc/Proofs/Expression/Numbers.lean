import InfixCalc.Proofs.Decimal.Arithmetic
import InfixCalc.Proofs.Expression.Operations
import InfixCalc.Proofs.Token.Scan

/-!
# Numbers in a tree

A tree that was read has literals with exact values.  Then what it comes to is
finite as long as nothing is divided by zero, and it is either a literal, which is
not negative, or the rounded result of an operator, which has no more digits than
the precision.
-/

namespace InfixCalc

theorem Literal.isFinite_value (written : Text) : (value written).isFinite := rfl

theorem Literal.toRat_value_nonneg (written : Text) : 0 ≤ (value written).toRat := by
  rw [value, Decimal.toRat, Decimal.signed_false]
  exact mul_nonneg (by exact_mod_cast Nat.zero_le _) (ten_zpow_pos _).le

theorem Operation.not_zero_division
    {operation : Operation}
    (defined : operation.isDefined) :
    ¬ (operation.symbol = .div ∧ operation.right.isZero) := by
  rwa [isDefined, Bool.not_eq_true', decide_eq_false_iff_not] at defined

namespace Expression

/-- Every literal has the value of what was written. -/
def IsExact : Expression → Prop
  | literal value written _ => value = Literal.value written
  | group _ _ inner => inner.IsExact
  | binary _ _ left right => left.IsExact ∧ right.IsExact

theorem isExact_of_tokens
    {expression : Expression}
    (exactValues : ∀ token ∈ expression.tokens, ∀ value written,
      token.lexeme = .number value written → value = Literal.value written) :
    expression.IsExact := by
  induction expression with
  | literal value written position =>
    exact exactValues _ List.mem_cons_self value written rfl
  | group opening closing inner holds =>
    rw [tokens, List.forall_mem_cons, List.forall_mem_append] at exactValues
    exact holds exactValues.2.1
  | binary symbol position left right leftHolds rightHolds =>
    rw [tokens, List.forall_mem_append, List.forall_mem_cons] at exactValues
    exact ⟨leftHolds exactValues.1, rightHolds exactValues.2.2⟩

variable
    {context : Context}
    {expression : Expression}

/-- Without a division by zero, a tree comes to a finite decimal. -/
theorem isFinite_total
    (exact : expression.IsExact)
    (defined : ∀ operation ∈ expression.operations context, operation.isDefined) :
    (expression.total context).isFinite := by
  induction expression with
  | literal value written position =>
    rw [total, show value = Literal.value written from exact]
    exact Literal.isFinite_value written
  | group opening closing inner holds => exact holds exact defined
  | binary symbol position left right leftHolds rightHolds =>
    rw [operations, List.forall_mem_append, List.forall_mem_append,
      List.forall_mem_singleton] at defined
    rcases defined with ⟨⟨leftDefined, rightDefined⟩, rootDefined⟩
    exact symbol.isFinite_apply context (leftHolds exact.1 leftDefined)
      (rightHolds exact.2 rightDefined) (Operation.not_zero_division rootDefined)

/-- What a tree comes to is not negative, or it has been rounded. -/
theorem nonneg_or_hasDigits_total
    (exact : expression.IsExact)
    (defined : ∀ operation ∈ expression.operations context, operation.isDefined) :
    0 ≤ (expression.total context).toRat ∨
      HasDigits context.precision (expression.total context).toRat := by
  induction expression with
  | literal value written position =>
    rw [total, show value = Literal.value written from exact]
    exact .inl (Literal.toRat_value_nonneg written)
  | group opening closing inner holds => exact holds exact defined
  | binary symbol position left right _ _ =>
    rw [operations, List.forall_mem_append, List.forall_mem_append,
      List.forall_mem_singleton] at defined
    rcases defined with ⟨⟨leftDefined, rightDefined⟩, rootDefined⟩
    right
    rw [total, symbol.toRat_apply context (isFinite_total exact.1 leftDefined)
      (isFinite_total exact.2 rightDefined) (Operation.not_zero_division rootDefined)]
    exact context.hasDigits_nearest _

end Expression

end InfixCalc
