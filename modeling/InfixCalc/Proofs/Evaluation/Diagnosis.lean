import InfixCalc.Evaluation
import InfixCalc.Proofs.Machine.Diagnosis
import InfixCalc.Proofs.Token.Scan

/-!
# Diagnoses of whole expressions

A text that can be read fails exactly as the run on its tokens does.  So the
failures of an evaluation say the truth about the tokens of the text, and where
they leave no room for any other failure, they say which one it will be.
-/

namespace InfixCalc

open Machine (Justified)
open Token (Balanced Leaves Orderly juxtapositions)

section

variable
    {context : Context}
    {mode : LexerMode}
    {expression : Text}
    {tokens : List Token}

theorem evaluate_eq_run
    (readable : mode.scan expression = ⟨tokens, none⟩) :
    evaluate context mode expression = (Machine.run context tokens).outcome := by
  rw [evaluate, readable]

theorem leaves_of_evaluate_ok
    {value : Decimal}
    (readable : mode.scan expression = ⟨tokens, none⟩)
    (found : evaluate context mode expression = .ok value) :
    Leaves tokens 1 := by
  have justified := Machine.run_justified context tokens
  rwa [Reaction.Ensures, ← evaluate_eq_run readable, found] at justified

theorem justified_of_evaluate_error
    {problem : Failure}
    (readable : mode.scan expression = ⟨tokens, none⟩)
    (failed : evaluate context mode expression = .error problem) :
    Justified tokens problem := by
  have justified := Machine.run_justified context tokens
  rwa [Reaction.Ensures, ← evaluate_eq_run readable, failed] at justified

end

/-! ## What an orderly expression can still fail with -/

namespace Token

variable {tokens : List Token}

theorem Balanced.not_unmatchedClose
    {position : Nat}
    (balanced : Balanced tokens) :
    ¬ Justified tokens (.unmatchedClose position) := by
  rintro ⟨before, after, rfl, matched⟩
  rw [Balanced, openAfter?_append, show openAfter? 0 before = some 0 from matched,
    Option.bind_some, openAfter?_cons] at balanced
  cases balanced

theorem Balanced.not_unclosedOpen
    {position : Nat}
    (balanced : Balanced tokens) :
    ¬ Justified tokens (.unclosedOpen position) := by
  rintro ⟨before, after, depth, rfl, opened, closed⟩
  have rest := openAfter?_add closed (depth + 1)
  rw [Balanced, openAfter?_append, opened, Option.bind_some, openAfter?_cons, Lexeme.openAfter?,
    Option.bind_some] at balanced
  rw [Nat.zero_add, balanced] at rest
  cases rest

/-- Without a division an orderly expression fails only for values side by side. -/
theorem Orderly.leftover_of_justified
    {problem : Failure}
    (orderly : Orderly tokens)
    (noDivision : ∀ token ∈ tokens, token.lexeme ≠ .operator .div)
    (nonempty : tokens ≠ [])
    (justified : Justified tokens problem) :
    ∃ count, problem = .leftover count := by
  cases problem with
  | unrecognizedToken run position => exact justified.elim
  | unexpectedUnit unit position => exact justified.elim
  | notEnoughOperands symbol position => exact justified.elim
  | unmatchedClose position => exact (orderly.balanced.not_unmatchedClose justified).elim
  | unclosedOpen position => exact (orderly.balanced.not_unclosedOpen justified).elim
  | emptyGroup position =>
    rcases justified with ⟨before, closing, after, equal⟩
    exact (orderly.inside_group before position closing after equal).elim
  | missingLeft symbol position =>
    rcases justified with ⟨before, after, equal, noValue⟩
    rcases orderly.left_of_operator before symbol position after equal with ⟨previous, last, ends⟩
    rw [noValue previous last] at ends
    cases ends
  | missingRight symbol position =>
    rcases justified with ⟨before, after, equal, noValue⟩
    rcases orderly.right_of_operator before symbol position after equal with ⟨next, head, begins⟩
    rw [noValue next head] at begins
    cases begins
  | divisionByZero position =>
    rcases justified with ⟨before, after, rfl⟩
    exact (noDivision ⟨.operator .div, position⟩ (by simp) rfl).elim
  | emptyExpression => exact (nonempty justified).elim
  | leftover count => exact ⟨count, rfl⟩

end Token

/--
The diagnoses of an expression that can be read say the truth about its tokens:
which operator lacks a value beside it, which group is empty, whether there are
any tokens at all, and how many values stand side by side.  Values side by side
in an otherwise orderly expression without divisions are always reported.
-/
theorem diagnoses_truthful
    (context : Context)
    (mode : LexerMode)
    (expression : Text)
    (tokens : List Token)
    (readable : mode.scan expression = ⟨tokens, none⟩) :
    let result := evaluate context mode expression
    (tokens.map Token.position).Pairwise (· < ·) ∧
      (∀ symbol position, result = .error (.missingLeft symbol position) →
        ∃ before after,
          tokens = before ++ ⟨.operator symbol, position⟩ :: after ∧
            ∀ previous ∈ before.getLast?, previous.lexeme.endsValue = false) ∧
      (∀ symbol position, result = .error (.missingRight symbol position) →
        ∃ before after,
          tokens = before ++ ⟨.operator symbol, position⟩ :: after ∧
            ∀ next ∈ after.head?, next.lexeme.beginsValue = false) ∧
      (∀ position, result = .error (.emptyGroup position) →
        ∃ before closing after,
          tokens = before ++ ⟨.openGroup, position⟩ :: ⟨.closeGroup, closing⟩ :: after) ∧
      (result = .error .emptyExpression ↔ tokens = []) ∧
      (∀ count, result = .error (.leftover count) →
        Orderly tokens ∧ 1 ≤ juxtapositions tokens ∧ count = juxtapositions tokens + 1) ∧
      (Orderly tokens →
        (∀ token ∈ tokens, token.lexeme ≠ .operator .div) →
          1 ≤ juxtapositions tokens →
            result = .error (.leftover (juxtapositions tokens + 1))) := by
  intro result
  have justified : ∀ problem, result = .error problem → Justified tokens problem :=
    fun _ failed => justified_of_evaluate_error readable failed
  have counted : ∀ count, result = .error (.leftover count) →
      Orderly tokens ∧ 1 ≤ juxtapositions tokens ∧ count = juxtapositions tokens + 1 := by
    intro count failed
    rcases justified _ failed with ⟨leaves, several⟩
    have positive : count ≠ 0 := by omega
    have number := leaves.juxtapositions_add_one positive
    exact ⟨(leaves.connected positive).orderly leaves.balanced, by omega, number.symm⟩
  refine ⟨?_, fun _ _ failed => justified _ failed, fun _ _ failed => justified _ failed,
    fun _ failed => justified _ failed, ⟨fun failed => justified _ failed, ?_⟩, counted, ?_⟩
  · have faithful := mode.faithful_scan expression
    rw [readable] at faithful
    exact faithful.increasing
  · rintro rfl
    exact evaluate_eq_run readable
  · intro orderly noDivision beside
    have nonempty : tokens ≠ [] := by
      rintro rfl
      cases beside
    cases outcome : result with
    | ok value =>
      have leaves : Leaves tokens 1 := leaves_of_evaluate_ok readable outcome
      have number := leaves.juxtapositions_add_one Nat.one_ne_zero
      omega
    | error problem =>
      have leftover := orderly.leftover_of_justified noDivision nonempty (justified problem outcome)
      rcases leftover with ⟨count, rfl⟩
      rw [(counted count outcome).2.2]

/-- Two numbers and a group side by side are three values, which nothing joins. -/
theorem diagnoses_truthful_three_values :
    let tokens : List Token :=
      [⟨.number (.finite false 1 0) (text "1"), 0⟩,
        ⟨.number (.finite false 2 0) (text "2"), 2⟩,
        ⟨.openGroup, 3⟩,
        ⟨.number (.finite false 3 0) (text "3"), 4⟩,
        ⟨.closeGroup, 5⟩]
    LexerMode.boundary.scan (text "1 2(3)") = ⟨tokens, none⟩ ∧
      evaluate .standard .boundary (text "1 2(3)") = .error (.leftover 3) := by
  intro tokens
  have readable : LexerMode.boundary.scan (text "1 2(3)") = ⟨tokens, none⟩ := by decide +kernel
  have leaves : Leaves tokens 3 := .beside .number (.beside .number (.group .number))
  have orderly : Orderly tokens := (leaves.connected (by decide)).orderly leaves.balanced
  have truthful := diagnoses_truthful .standard .boundary (text "1 2(3)") tokens readable
  exact ⟨readable, truthful.2.2.2.2.2.2 orderly (by decide) (by decide)⟩

end InfixCalc
