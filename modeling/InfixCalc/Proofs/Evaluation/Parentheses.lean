import InfixCalc.Proofs.Evaluation.Diagnosis
import InfixCalc.Proofs.Token.Partners

/-!
# Diagnoses of parentheses

A failure that blames a parenthesis blames the right one: the first closing one that
has no partner, or else, all closing ones having theirs, the last opening one that has
none.  Whether parentheses match decides which failures are possible at all.
-/

namespace InfixCalc

open Machine (Justified)
open Token (Balanced Leaves Unclosed Unopened)

namespace Token

variable
    {tokens : List Token}
    {position : Nat}

/-- The closing parenthesis that is blamed is the first one without a partner. -/
theorem first_unopened
    (justified : Justified tokens (.unmatchedClose position)) :
    ∃ before after,
      tokens = before ++ ⟨.closeGroup, position⟩ :: after ∧
        Unopened before ∧
        ∀ earlier closing between,
          before = earlier ++ ⟨.closeGroup, closing⟩ :: between → ¬ Unopened earlier := by
  rcases justified with ⟨before, after, equal, balanced⟩
  refine ⟨before, after, equal, balanced.unopened, ?_⟩
  rintro earlier closing between rfl
  exact not_unopened balanced

/-- Where an opening parenthesis is blamed, no closing one is without a partner. -/
theorem none_unopened
    (justified : Justified tokens (.unclosedOpen position)) :
    ∀ before closing after,
      tokens = before ++ ⟨.closeGroup, closing⟩ :: after → ¬ Unopened before := by
  rcases justified with ⟨front, behind, depth, rfl, opened, balanced⟩
  have counted : openAfter? 0 (front ++ ⟨.openGroup, position⟩ :: behind) = some (depth + 1) := by
    have rest := openAfter?_add balanced (depth + 1)
    rw [Nat.zero_add] at rest
    rw [openAfter?_append, opened, Option.bind_some, openAfter?_cons, Lexeme.openAfter?,
      Option.bind_some, rest]
  intro before closing after equal
  rw [equal] at counted
  exact not_unopened counted

/-- The opening parenthesis that is blamed is the last one without a partner. -/
theorem last_unclosed
    (justified : Justified tokens (.unclosedOpen position)) :
    ∃ before after,
      tokens = before ++ ⟨.openGroup, position⟩ :: after ∧
        Unclosed after ∧
        ∀ between opening later,
          after = between ++ ⟨.openGroup, opening⟩ :: later → ¬ Unclosed later := by
  rcases justified with ⟨before, after, _, equal, _, balanced⟩
  refine ⟨before, after, equal, balanced.unclosed, ?_⟩
  rintro between opening later rfl
  exact balanced.not_unclosed

variable {problem : Failure}

/-- Only parentheses without a partner are called unbalanced. -/
theorem Balanced.code_ne_unbalanced
    (balanced : Balanced tokens)
    (justified : Justified tokens problem) :
    problem.code ≠ .unbalanced := by
  cases problem with
  | unmatchedClose position => exact (balanced.not_unmatchedClose justified).elim
  | unclosedOpen position => exact (balanced.not_unclosedOpen justified).elim
  | _ => nofun

/-- Several values are left, or none at all, only where all parentheses match. -/
theorem balanced_of_justified
    (justified : Justified tokens problem)
    (atEnd : problem.code = .leftover ∨ problem = .emptyExpression) :
    Balanced tokens := by
  rcases atEnd with several | rfl
  · cases problem with
    | leftover count => exact justified.1.balanced
    | _ => cases several
  · have empty : tokens = [] := justified
    rw [empty]
    rfl

end Token

/--
Diagnoses of parentheses are exact.  A closing parenthesis that is blamed is the first
one without a partner.  Where an opening one is blamed, every closing one has a partner,
and the one that is blamed is the last opening one without.  If all parentheses match,
the code for unbalanced ones does not occur; if they do not, there is no value, and the
expression is neither called empty nor said to leave several values.
-/
theorem parentheses_diagnosed
    (context : Context)
    (mode : LexerMode)
    (expression : Text)
    (tokens : List Token)
    (readable : mode.scan expression = ⟨tokens, none⟩) :
    let result := evaluate context mode expression
    (tokens.map Token.position).Pairwise (· < ·) ∧
      (∀ position, result = .error (.unmatchedClose position) →
        ∃ before after,
          tokens = before ++ ⟨.closeGroup, position⟩ :: after ∧
            Unopened before ∧
            ∀ earlier closing between,
              before = earlier ++ ⟨.closeGroup, closing⟩ :: between → ¬ Unopened earlier) ∧
      (∀ position, result = .error (.unclosedOpen position) →
        (∀ before closing after,
            tokens = before ++ ⟨.closeGroup, closing⟩ :: after → ¬ Unopened before) ∧
          ∃ before after,
            tokens = before ++ ⟨.openGroup, position⟩ :: after ∧
              Unclosed after ∧
              ∀ between opening later,
                after = between ++ ⟨.openGroup, opening⟩ :: later → ¬ Unclosed later) ∧
      (Balanced tokens → ∀ problem, result = .error problem → problem.code ≠ .unbalanced) ∧
      (¬ Balanced tokens →
        (∀ value, result ≠ .ok value) ∧
          ∀ problem, result = .error problem →
            problem.code ≠ .leftover ∧ problem ≠ .emptyExpression) := by
  intro result
  have justified : ∀ problem, result = .error problem → Justified tokens problem :=
    fun _ failed => justified_of_evaluate_error readable failed
  have faithful := mode.faithful_scan expression
  rw [readable] at faithful
  refine ⟨faithful.increasing, ?_, ?_, ?_, ?_⟩
  · intro position failed
    exact Token.first_unopened (justified _ failed)
  · intro position failed
    exact ⟨Token.none_unopened (justified _ failed), Token.last_unclosed (justified _ failed)⟩
  · intro balanced problem failed
    exact balanced.code_ne_unbalanced (justified problem failed)
  · intro unbalanced
    constructor
    · intro value found
      exact unbalanced (leaves_of_evaluate_ok readable found).balanced
    · intro problem failed
      rw [← not_or]
      exact fun atEnd => unbalanced (Token.balanced_of_justified (justified problem failed) atEnd)

/-- Of two opening parentheses that are never closed the second one is blamed. -/
theorem parentheses_diagnosed_two_unclosed :
    let tokens : List Token :=
      [⟨.openGroup, 0⟩,
        ⟨.openGroup, 1⟩,
        ⟨.number (.finite false 1 0) (text "1"), 2⟩,
        ⟨.closeGroup, 3⟩,
        ⟨.openGroup, 4⟩,
        ⟨.number (.finite false 2 0) (text "2"), 5⟩]
    LexerMode.boundary.scan (text "((1)(2") = ⟨tokens, none⟩ ∧
      evaluate .standard .boundary (text "((1)(2") = .error (.unclosedOpen 4) ∧
      (∀ before closing after,
        tokens = before ++ ⟨.closeGroup, closing⟩ :: after → ¬ Unopened before) ∧
      ∃ before after,
        tokens = before ++ ⟨.openGroup, 4⟩ :: after ∧
          Unclosed after ∧
          ∀ between opening later,
            after = between ++ ⟨.openGroup, opening⟩ :: later → ¬ Unclosed later := by
  intro tokens
  have readable : LexerMode.boundary.scan (text "((1)(2") = ⟨tokens, none⟩ := by decide +kernel
  have failed : evaluate .standard .boundary (text "((1)(2") = .error (.unclosedOpen 4) := by
    decide +kernel
  have diagnosed := parentheses_diagnosed .standard .boundary (text "((1)(2") tokens readable
  exact ⟨readable, failed, diagnosed.2.2.1 4 failed⟩

end InfixCalc
