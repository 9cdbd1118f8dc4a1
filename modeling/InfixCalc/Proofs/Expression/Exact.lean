import InfixCalc.Proofs.Decimal.Monotone
import InfixCalc.Proofs.Decimal.Places
import InfixCalc.Proofs.Expression.Numbers

/-!
# Exact and rounded values of a tree

A tree has an exact value, and one for every way of rounding: the result of each
operator is rounded before the next operator takes it.  What a tree comes to in a
context is the value with the rounding of the context.

Two things hold for every way of rounding.  If it leaves short numbers as they are, a
short tree without divisions is not rounded at all, since its length bounds the digits
of the exact value of each part.  If it rounds below another way of rounding, the
values of sums and products stay below too, however deep they are nested.
-/

namespace InfixCalc

/-- Sums and products of numbers that are not negative are not negative, and grow with them. -/
theorem Operator.exact_mono
    {symbol : Operator}
    (noDifference : symbol ≠ sub)
    (noQuotient : symbol ≠ div)
    {left right moreLeft moreRight : ℚ}
    (leftNonneg : 0 ≤ left)
    (rightNonneg : 0 ≤ right)
    (leftOrder : left ≤ moreLeft)
    (rightOrder : right ≤ moreRight) :
    0 ≤ symbol.exact left right ∧ symbol.exact left right ≤ symbol.exact moreLeft moreRight := by
  cases symbol with
  | add => exact ⟨add_nonneg leftNonneg rightNonneg, add_le_add leftOrder rightOrder⟩
  | mul =>
    exact ⟨mul_nonneg leftNonneg rightNonneg,
      mul_le_mul leftOrder rightOrder rightNonneg (leftNonneg.trans leftOrder)⟩
  | sub => exact absurd rfl noDifference
  | div => exact absurd rfl noQuotient

namespace Expression

/-! ## Trees as they are written -/

/-- Every leaf is a literal with the value of what was written. -/
def IsWritten : Expression → Prop
  | literal value written _ => (Lexeme.number value written).Written written
  | group _ _ inner => inner.IsWritten
  | binary _ _ left right => left.IsWritten ∧ right.IsWritten

/-- The operator does not occur in the tree. -/
def Avoids (avoided : Operator) : Expression → Prop
  | literal _ _ _ => True
  | group _ _ inner => inner.Avoids avoided
  | binary symbol _ left right => symbol ≠ avoided ∧ left.Avoids avoided ∧ right.Avoids avoided

/-- The number of units that the tokens of a tree are written with. -/
def width (expression : Expression) : Nat :=
  (expression.tokens.map fun token => token.toText.length).sum

variable
    {context : Context}
    {expression : Expression}

theorem isWritten_of_tokens
    (written : ∀ token ∈ expression.tokens, token.lexeme.Written token.toText) :
    expression.IsWritten := by
  induction expression with
  | literal value text position => exact written _ List.mem_cons_self
  | group opening closing inner holds =>
    rw [tokens, List.forall_mem_cons, List.forall_mem_append] at written
    exact holds written.2.1
  | binary symbol position left right leftHolds rightHolds =>
    rw [tokens, List.forall_mem_append, List.forall_mem_cons] at written
    exact ⟨leftHolds written.1, rightHolds written.2.2⟩

theorem IsWritten.isExact
    (written : expression.IsWritten) :
    expression.IsExact := by
  induction expression with
  | literal value text position => exact (Lexeme.Written.of_number written).1
  | group opening closing inner holds => exact holds written
  | binary symbol position left right leftHolds rightHolds =>
    exact ⟨leftHolds written.1, rightHolds written.2⟩

theorem avoids_of_tokens
    {avoided : Operator}
    (absent : ∀ token ∈ expression.tokens, token.lexeme ≠ .operator avoided) :
    expression.Avoids avoided := by
  induction expression with
  | literal value text position => trivial
  | group opening closing inner holds =>
    rw [tokens, List.forall_mem_cons, List.forall_mem_append] at absent
    exact holds absent.2.1
  | binary symbol position left right leftHolds rightHolds =>
    rw [tokens, List.forall_mem_append, List.forall_mem_cons] at absent
    refine ⟨?_, leftHolds absent.1, rightHolds absent.2.2⟩
    rintro rfl
    exact absent.2.1 rfl

/-- Without divisions, every operator is defined. -/
theorem Avoids.defined
    (noDivision : expression.Avoids .div) :
    ∀ operation ∈ expression.operations context, operation.isDefined := by
  induction expression with
  | literal value text position => simp [operations]
  | group opening closing inner holds => exact holds noDivision
  | binary symbol position left right leftHolds rightHolds =>
    rcases noDivision with ⟨noQuotient, leftAvoids, rightAvoids⟩
    rw [operations, List.forall_mem_append, List.forall_mem_append, List.forall_mem_singleton]
    refine ⟨⟨leftHolds leftAvoids, rightHolds rightAvoids⟩, ?_⟩
    simp [Operation.isDefined, operation, noQuotient]

@[simp]
theorem width_literal
    (value : Decimal)
    (written : Text)
    (position : Nat) :
    (literal value written position).width = written.length := rfl

@[simp]
theorem width_group
    (opening closing : Nat)
    (inner : Expression) :
    (group opening closing inner).width = inner.width + 2 := by
  simp only [width, tokens, List.map_cons, List.map_append, List.sum_cons, List.sum_append,
    List.map_nil, List.sum_nil]
  have opens : Token.toText ⟨.openGroup, opening⟩ = [0x28] := rfl
  have closes : Token.toText ⟨.closeGroup, closing⟩ = [0x29] := rfl
  rw [opens, closes, List.length_singleton, List.length_singleton]
  omega

@[simp]
theorem width_binary
    (symbol : Operator)
    (position : Nat)
    (left right : Expression) :
    (binary symbol position left right).width = left.width + right.width + 1 := by
  have unit : Token.toText ⟨.operator symbol, position⟩ = [symbol.symbol] := rfl
  simp only [width, tokens, List.map_append, List.map_cons, List.sum_append, List.sum_cons, unit,
    List.length_singleton]
  omega

/-! ## Values -/

/-- The value of a tree as a rational number, nothing rounded. -/
def exact : Expression → ℚ
  | literal _ written _ => (Literal.value written).toRat
  | group _ _ inner => inner.exact
  | binary symbol _ left right => symbol.exact left.exact right.exact

/-- The value of a tree with the result of each operator rounded. -/
def valueWith (round : ℚ → ℚ) : Expression → ℚ
  | literal _ written _ => (Literal.value written).toRat
  | group _ _ inner => inner.valueWith round
  | binary symbol _ left right =>
    round (symbol.exact (left.valueWith round) (right.valueWith round))

theorem valueWith_id (expression : Expression) : expression.valueWith id = expression.exact := by
  induction expression with
  | literal value written position => rfl
  | group opening closing inner holds => exact holds
  | binary symbol position left right leftHolds rightHolds =>
    rw [valueWith, leftHolds, rightHolds]
    rfl

/-- What a tree comes to is its value with the rounding of the context. -/
theorem toRat_total
    (isExact : expression.IsExact)
    (defined : ∀ operation ∈ expression.operations context, operation.isDefined) :
    (expression.total context).toRat = expression.valueWith context.nearest := by
  induction expression with
  | literal value written position =>
    rw [total, show value = Literal.value written from isExact]
    rfl
  | group opening closing inner holds => exact holds isExact defined
  | binary symbol position left right leftHolds rightHolds =>
    rw [operations, List.forall_mem_append, List.forall_mem_append,
      List.forall_mem_singleton] at defined
    rcases defined with ⟨⟨leftDefined, rightDefined⟩, rootDefined⟩
    rw [total, symbol.toRat_apply context (isFinite_total isExact.1 leftDefined)
        (isFinite_total isExact.2 rightDefined) (Operation.not_zero_division rootDefined),
      leftHolds isExact.1 leftDefined, rightHolds isExact.2 rightDefined]
    rfl

/-! ## Short trees -/

/-- Without divisions, the exact value of a tree has no more places than the tree has units. -/
theorem exists_hasPlaces
    (isWritten : expression.IsWritten)
    (noDivision : expression.Avoids .div) :
    ∃ whole places,
      whole + places ≤ expression.width ∧ HasPlaces whole places expression.exact := by
  induction expression with
  | literal value written position =>
    rw [width_literal]
    exact (Lexeme.Written.of_number isWritten).2.exists_hasPlaces
  | group opening closing inner holds =>
    rcases holds isWritten noDivision with ⟨whole, places, short, has⟩
    exact ⟨whole, places, by rw [width_group]; omega, has⟩
  | binary symbol position left right leftHolds rightHolds =>
    rcases noDivision with ⟨noQuotient, leftAvoids, rightAvoids⟩
    rcases leftHolds isWritten.1 leftAvoids with ⟨whole, places, short, has⟩
    rcases rightHolds isWritten.2 rightAvoids with ⟨otherWhole, otherPlaces, otherShort, otherHas⟩
    rw [width_binary]
    -- The unit of the operator pays for the carry of a sum.
    cases symbol with
    | add => exact ⟨_, _, by omega, has.add otherHas⟩
    | sub =>
      have difference := has.add otherHas.neg
      rw [← sub_eq_add_neg] at difference
      exact ⟨_, _, by omega, difference⟩
    | mul => exact ⟨_, _, by omega, has.mul otherHas⟩
    | div => exact absurd rfl noQuotient

/-- Where short numbers are left as they are, a short tree is not rounded at all. -/
theorem valueWith_eq_exact
    {round : ℚ → ℚ}
    {count : Nat}
    (keeps : ∀ number, HasDigits count number → round number = number)
    (isWritten : expression.IsWritten)
    (noDivision : expression.Avoids .div)
    (short : expression.width ≤ count) :
    expression.valueWith round = expression.exact := by
  induction expression with
  | literal value written position => rfl
  | group opening closing inner holds =>
    rw [width_group] at short
    exact holds isWritten noDivision (by omega)
  | binary symbol position left right leftHolds rightHolds =>
    rcases exists_hasPlaces isWritten noDivision with ⟨whole, places, least, has⟩
    have digits := has.hasDigits (least.trans short)
    rw [width_binary] at short
    rw [valueWith, leftHolds isWritten.1 noDivision.2.1 (by omega),
      rightHolds isWritten.2 noDivision.2.2 (by omega)]
    exact keeps _ digits

/-! ## Two ways of rounding -/

/-- What rounds below stays below through a whole tree of sums and products. -/
theorem valueWith_mono
    {lower upper : ℚ → ℚ}
    (below : RoundsBelow lower upper)
    (noDifference : expression.Avoids .sub)
    (noDivision : expression.Avoids .div) :
    0 ≤ expression.valueWith lower ∧
      expression.valueWith lower ≤ expression.valueWith upper := by
  induction expression with
  | literal value written position => exact ⟨Literal.toRat_value_nonneg written, le_rfl⟩
  | group opening closing inner holds => exact holds noDifference noDivision
  | binary symbol position left right leftHolds rightHolds =>
    rcases leftHolds noDifference.2.1 noDivision.2.1 with ⟨leftNonneg, leftOrder⟩
    rcases rightHolds noDifference.2.2 noDivision.2.2 with ⟨rightNonneg, rightOrder⟩
    rcases Operator.exact_mono noDifference.1 noDivision.1 leftNonneg rightNonneg
      leftOrder rightOrder with ⟨rootNonneg, rootOrder⟩
    exact ⟨below.nonneg _ rootNonneg, below.order _ _ rootNonneg rootOrder⟩

end Expression

end InfixCalc
