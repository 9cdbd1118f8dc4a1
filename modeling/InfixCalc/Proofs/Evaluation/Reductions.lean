import InfixCalc.Proofs.Decimal.Plain
import InfixCalc.Proofs.Evaluation.Explanation
import InfixCalc.Proofs.Evaluation.Grammar
import InfixCalc.Proofs.Expression.Operations
import InfixCalc.Proofs.Machine.Lawful

/-!
# Explanations show correct reductions

What an explanation shows of the operators can be checked without the machine.
For an expression, they are the operator nodes of its tree in order.  And of
anything that can be read, each one shows two numbers and their exact result,
rounded to as many digits as were asked for.
-/

namespace InfixCalc

/-- What a step shows of an operator that was carried out. -/
structure Reduction where
  symbol : Text
  position : Nat
  left : Text
  right : Text
  result : Text
  deriving DecidableEq, Repr

/-- The reduction that a step shows, if it is one. -/
def TraceStep.reduction? : TraceStep → Option Reduction
  | shift _ _ _ => none
  | reduce symbol position left right result _ => some ⟨symbol, position, left, right, result⟩

/-- The written form of an action that is a reduction. -/
def Action.reduction? : Action → Option Reduction
  | shift _ => none
  | reduce symbol position left right result =>
    some ⟨symbol.toText, position, left.toText, right.toText, result.toText⟩

/-- The written form of an operator node. -/
def Operation.written (operation : Operation) : Reduction :=
  ⟨operation.symbol.toText, operation.position, operation.left.toText, operation.right.toText,
    operation.result.toText⟩

/-- The written reductions are those of the account. -/
theorem Reaction.reductions_written
    {α : Type}
    (reaction : Reaction α) :
    reaction.written.filterMap TraceStep.reduction?
      = reaction.account.reductions.filterMap Action.reduction? := by
  rw [written, account, List.filterMap_filter, List.filterMap_map, List.filterMap_map]
  congr 1
  funext step
  rcases step with ⟨_ | _, _⟩ <;> rfl

/-- A lawful reduction shows the exact result of what it shows on either side, rounded. -/
theorem Action.Lawful.written
    {context : Context}
    {action : Action}
    {reduction : Reduction}
    (lawful : action.Lawful context)
    (shown : action.reduction? = some reduction) :
    ∃ symbol : Operator, ∃ left right : ℚ,
      reduction.symbol = symbol.toText ∧
        Text.plainNumber? reduction.left = some left ∧
        Text.plainNumber? reduction.right = some right ∧
        (symbol = .div → right ≠ 0 ∧ reduction.right ≠ text "0") ∧
        Text.plainNumber? reduction.result = some (context.nearest (symbol.exact left right)) ∧
        HasDigits context.precision (context.nearest (symbol.exact left right)) := by
  cases action with
  | shift token => cases shown
  | reduce symbol position left right result =>
    cases shown
    rcases lawful with ⟨leftFinite, rightFinite, defined, rfl⟩
    refine ⟨symbol, left.toRat, right.toRat, rfl, Decimal.plainNumber?_toText leftFinite,
      Decimal.plainNumber?_toText rightFinite, ?_, ?_, context.hasDigits_nearest _⟩
    · intro division
      have nonzero : ¬ right.isZero := fun zero => defined ⟨division, zero⟩
      constructor
      · rwa [ne_eq, Decimal.toRat_eq_zero_iff rightFinite]
      · intro printed
        exact nonzero (Decimal.isZero_of_toText_zero rightFinite printed)
    · rw [← symbol.toRat_apply context leftFinite rightFinite defined]
      exact Decimal.plainNumber?_toText
        (symbol.isFinite_apply context leftFinite rightFinite defined)

/-- The numbers that a reader finds are finite. -/
theorem LexerMode.finite_scan
    (mode : LexerMode)
    (expression : Text) :
    ∀ token ∈ (mode.scan expression).tokens, ∀ value written,
      token.lexeme = .number value written → value.isFinite := by
  intro token member value written number
  rw [(mode.faithful_scan expression).exact_values token member value written number]
  rfl

theorem reductions_explain
    {context : Context}
    {mode : LexerMode}
    {expression : Text}
    (readToEnd : (mode.scan expression).failure = none) :
    (explain context mode expression).steps.filterMap TraceStep.reduction?
      = (Machine.run context (mode.scan expression).tokens).account.reductions.filterMap
          Action.reduction? := by
  rw [explain_of_readable readToEnd, Reaction.reductions_written]

/--
Explanations show correct reductions.  If the text is an expression, its
reductions are the operators of the tree in order, up to the first division by
zero, and all of them if there is a value.  Whatever the text is, each reduction
shows two numbers in plain notation, the right one not zero under a division,
and the exact result of its operator on them, rounded in the mode of the
context to a number with no more significant digits than the precision.
-/
theorem reductions_correct
    (context : Context)
    (mode : LexerMode)
    (expression : Text) :
    let scan := mode.scan expression
    let explanation := explain context mode expression
    let reductions := explanation.steps.filterMap TraceStep.reduction?
    (scan.failure = none → ∀ tree, Derives .sum scan.tokens tree →
        reductions
            = ((tree.operations context).takeWhile Operation.isDefined).map Operation.written ∧
          ∀ value, explanation.result = .ok value →
            reductions = (tree.operations context).map Operation.written) ∧
      ∀ reduction ∈ reductions, ∃ symbol : Operator, ∃ left right : ℚ,
        reduction.symbol = symbol.toText ∧
          Text.plainNumber? reduction.left = some left ∧
          Text.plainNumber? reduction.right = some right ∧
          (symbol = .div → right ≠ 0 ∧ reduction.right ≠ text "0") ∧
          Text.plainNumber? reduction.result = some (context.nearest (symbol.exact left right)) ∧
          HasDigits context.precision (context.nearest (symbol.exact left right)) := by
  intro scan explanation reductions
  constructor
  · intro readToEnd tree derives
    have inOrder : reductions
        = ((tree.operations context).takeWhile Operation.isDefined).map Operation.written := by
      calc
        reductions
          = (Machine.run context scan.tokens).account.reductions.filterMap Action.reduction? :=
            reductions_explain readToEnd
        _ = (tree.reductions context).filterMap Action.reduction? := by
            rw [Machine.account_run derives, Account.reductions_andThen_settled]
            rfl
        _ = ((tree.operations context).takeWhile Operation.isDefined).map Operation.written := by
            have written : Action.reduction? ∘ Operation.toAction = some ∘ Operation.written := rfl
            rw [Expression.reductions_eq_takeWhile, List.filterMap_map, written,
              List.filterMap_eq_map]
    refine ⟨inOrder, ?_⟩
    intro value found
    have readable : mode.scan expression = ⟨scan.tokens, none⟩ := by
      rw [← readToEnd]
    rw [explain_result, evaluate_eq_value? readable derives, Expression.value?_eq_ok_iff] at found
    rw [inOrder, List.takeWhile_eq_self_iff.mpr found.2]
  · intro reduction member
    cases failure : scan.failure with
    | some problem =>
      have stopped : explanation = ⟨.error problem, []⟩ := explain_of_scan_failure failure
      simp only [reductions, stopped, List.filterMap_nil, List.not_mem_nil] at member
    | none =>
      have lawful := Machine.lawful_run context (mode.finite_scan expression)
      simp only [reductions] at member
      rw [reductions_explain failure, List.mem_filterMap] at member
      rcases member with ⟨action, performed, shown⟩
      rcases List.mem_map.mp (List.mem_of_mem_filter performed) with ⟨step, stepMember, rfl⟩
      exact (lawful.steps step stepMember).written shown

end InfixCalc
