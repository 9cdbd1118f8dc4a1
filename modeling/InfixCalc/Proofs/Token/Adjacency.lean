import InfixCalc.Token
import Mathlib.Data.List.Chain

/-!
# What stands beside what

An expression can be judged token by token: its parentheses match, every
operator stands between two values, no group is empty.  Where a value begins
directly after another one has ended, two values stand side by side; the number
of such places is `Token.juxtapositions`.

None of this knows of stacks or trees.  It is what diagnoses are compared with.
-/

namespace InfixCalc

namespace Lexeme

/-- Whether a value ends here: a number or a closing parenthesis. -/
def endsValue : Lexeme → Bool
  | number _ _ => true
  | operator _ => false
  | openGroup => false
  | closeGroup => true

/-- Whether a value begins here: a number or an opening parenthesis. -/
def beginsValue : Lexeme → Bool
  | number _ _ => true
  | operator _ => false
  | openGroup => true
  | closeGroup => false

/--
Whether the second may directly follow the first.  An operator wants a value on
either side, and parentheses want something between them.
-/
def admits : Lexeme → Lexeme → Bool
  | operator _, next => next.beginsValue
  | previous, operator _ => previous.endsValue
  | openGroup, closeGroup => false
  | _, _ => true

/-- The number of open groups behind a lexeme, none if it closes what nothing opened. -/
def openAfter? (depth : Nat) : Lexeme → Option Nat
  | number _ _ => some depth
  | operator _ => some depth
  | openGroup => some (depth + 1)
  | closeGroup =>
    match depth with
    | 0 => none
    | outer + 1 => some outer

theorem admits_operator_right
    {previous : Lexeme}
    {symbol : Operator} :
    previous.admits (operator symbol) = previous.endsValue := by
  cases previous <;> rfl

/-- A value may directly follow whatever is no operator. -/
theorem admits_of_values
    {previous next : Lexeme}
    (ends : previous.endsValue)
    (begins : next.beginsValue) :
    previous.admits next := by
  cases previous <;> cases next <;> simp_all [endsValue, beginsValue, admits]

theorem openGroup_admits
    {next : Lexeme}
    (begins : next.beginsValue) :
    openGroup.admits next := by
  cases next <;> simp_all [beginsValue, admits]

theorem admits_closeGroup
    {previous : Lexeme}
    (ends : previous.endsValue) :
    previous.admits closeGroup := by
  cases previous <;> simp_all [endsValue, admits]

end Lexeme

namespace Token

/-! ## Matching parentheses -/

/-- The number of open groups behind some tokens, none if a closing parenthesis has no partner. -/
def openAfter?
    (depth : Nat)
    (tokens : List Token) :
    Option Nat :=
  tokens.foldlM (fun depth token => token.lexeme.openAfter? depth) depth

/-- Every parenthesis has its partner. -/
def Balanced (tokens : List Token) : Prop :=
  openAfter? 0 tokens = some 0

instance (tokens : List Token) : Decidable (Balanced tokens) :=
  inferInstanceAs (Decidable (openAfter? 0 tokens = some 0))

@[simp]
theorem openAfter?_nil (depth : Nat) : openAfter? depth [] = some depth := rfl

theorem openAfter?_cons
    (depth : Nat)
    (token : Token)
    (rest : List Token) :
    openAfter? depth (token :: rest)
      = (token.lexeme.openAfter? depth).bind fun inner => openAfter? inner rest := rfl

theorem openAfter?_append
    (depth : Nat)
    (first second : List Token) :
    openAfter? depth (first ++ second)
      = (openAfter? depth first).bind fun inner => openAfter? inner second := by
  simp only [openAfter?, List.foldlM_append]
  rfl

/-- Groups that were open before stay open. -/
theorem openAfter?_add
    {tokens : List Token}
    {depth inner : Nat}
    (opened : openAfter? depth tokens = some inner)
    (more : Nat) :
    openAfter? (depth + more) tokens = some (inner + more) := by
  induction tokens generalizing depth with
  | nil =>
    cases opened
    rfl
  | cons token rest next =>
    rw [openAfter?_cons] at opened ⊢
    rcases token with ⟨lexeme, position⟩
    cases lexeme with
    | number value written => exact next opened
    | operator symbol => exact next opened
    | openGroup =>
      rw [Lexeme.openAfter?, Option.bind_some] at opened ⊢
      rw [Nat.add_right_comm]
      exact next opened
    | closeGroup =>
      cases depth with
      | zero => cases opened
      | succ outer =>
        rw [Nat.add_right_comm]
        exact next opened

/-! ## Values side by side -/

/-- The number of places where a value begins directly after another one has ended. -/
def juxtapositions (tokens : List Token) : Nat :=
  (tokens.zip tokens.tail).countP fun pair =>
    pair.1.lexeme.endsValue && pair.2.lexeme.beginsValue

/-- One if a value ends before the seam and one begins behind it. -/
def seam (previous next : Option Token) : Nat :=
  if previous.any (·.lexeme.endsValue) && next.any (·.lexeme.beginsValue) then 1 else 0

@[simp]
theorem juxtapositions_nil : juxtapositions [] = 0 := rfl

theorem juxtapositions_cons
    (token : Token)
    (rest : List Token) :
    juxtapositions (token :: rest) = seam (some token) rest.head? + juxtapositions rest := by
  cases rest with
  | nil => simp [juxtapositions, seam]
  | cons next rest =>
    simp only [juxtapositions, seam, List.tail_cons, List.zip_cons_cons, List.countP_cons,
      List.head?_cons, Option.any_some]
    exact Nat.add_comm _ _

theorem juxtapositions_append (first second : List Token) :
    juxtapositions (first ++ second)
      = juxtapositions first + seam first.getLast? second.head? + juxtapositions second := by
  induction first with
  | nil => simp [juxtapositions, seam]
  | cons token rest inner =>
    rw [List.cons_append, juxtapositions_cons, juxtapositions_cons, inner]
    cases rest with
    | nil => simp [juxtapositions, seam]
    | cons next rest =>
      rw [List.getLast?_cons_cons, List.cons_append, List.head?_cons, List.head?_cons]
      omega

/-! ## Everything in its place -/

/-- Parentheses match, operators stand between values, and no group is empty. -/
structure Orderly (tokens : List Token) : Prop where
  balanced : Balanced tokens
  /-- A number or a closing parenthesis stands directly in front of every operator. -/
  left_of_operator :
    ∀ before symbol position after,
      tokens = before ++ ⟨.operator symbol, position⟩ :: after →
        ∃ previous, before.getLast? = some previous ∧ previous.lexeme.endsValue
  /-- A number or an opening parenthesis stands directly behind every operator. -/
  right_of_operator :
    ∀ before symbol position after,
      tokens = before ++ ⟨.operator symbol, position⟩ :: after →
        ∃ next, after.head? = some next ∧ next.lexeme.beginsValue
  /-- No opening parenthesis is directly followed by a closing one. -/
  inside_group :
    ∀ before opening closing after,
      tokens ≠ before ++ ⟨.openGroup, opening⟩ :: ⟨.closeGroup, closing⟩ :: after

/-- Tokens that may follow each other, from the beginning of a value to the end of one. -/
structure Connected (tokens : List Token) : Prop where
  chain : tokens.IsChain fun previous next => previous.lexeme.admits next.lexeme
  first : ∃ token, tokens.head? = some token ∧ token.lexeme.beginsValue
  last : ∃ token, tokens.getLast? = some token ∧ token.lexeme.endsValue

theorem Connected.orderly
    {tokens : List Token}
    (connected : Connected tokens)
    (balanced : Balanced tokens) :
    Orderly tokens where
  balanced := balanced
  left_of_operator := by
    rintro before symbol position after rfl
    rcases List.isChain_append.mp connected.chain with ⟨_, _, seamed⟩
    cases last : before.getLast? with
    | none =>
      rcases connected.first with ⟨token, head, begins⟩
      have empty : before = [] := List.getLast?_eq_none_iff.mp last
      rw [empty] at head
      cases head
      cases begins
    | some previous =>
      have admitted := seamed previous last _ rfl
      rw [Lexeme.admits_operator_right] at admitted
      exact ⟨previous, rfl, admitted⟩
  right_of_operator := by
    rintro before symbol position after rfl
    cases after with
    | nil =>
      rcases connected.last with ⟨token, last, ends⟩
      rw [List.getLast?_concat] at last
      cases last
      cases ends
    | cons next rest =>
      have tail := (List.isChain_append.mp connected.chain).2.1
      have admitted := (List.isChain_cons_cons.mp tail).1
      exact ⟨next, rfl, admitted⟩
  inside_group := by
    rintro before opening closing after rfl
    have tail := (List.isChain_append.mp connected.chain).2.1
    have admitted := (List.isChain_cons_cons.mp tail).1
    cases admitted

end Token

end InfixCalc
