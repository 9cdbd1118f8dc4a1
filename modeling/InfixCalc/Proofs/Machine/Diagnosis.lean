import InfixCalc.Proofs.Machine.Reduction
import InfixCalc.Proofs.Token.Operands

/-!
# What a failure says about the tokens

The tokens that a machine has taken over fall into pieces: in front of each
pending entry, and behind the topmost one, stand tokens that leave exactly the
operands between the bases.  `Reads` says so; it is what turns a comparison of
depths, made late and deep in the stacks, into a statement about neighbours.

`Justified` says what each failure claims about the tokens.  The main statement
is that a run never fails without justification, and that it succeeds only on
tokens that leave a single operand.
-/

namespace InfixCalc

namespace Pending

/-- The token that an entry was made of. -/
def token : Pending → Token
  | operator symbol position _ _ => ⟨.operator symbol, position⟩
  | group position _ => ⟨.openGroup, position⟩

/-- An operator has the base of the entry beneath it as its floor. -/
def Grounded (beneath : List Pending) : Pending → Prop
  | operator _ _ _ floor => floor = baseOf beneath
  | group _ _ => True

theorem endsValue_token (entry : Pending) : entry.token.lexeme.endsValue = false := by
  cases entry <;> rfl

end Pending

namespace Machine

open Pending (baseOf)
open Token (Balanced Leaves openAfter?)

/--
The tokens end with the topmost entry; in front of every entry stand tokens that
leave the operands between the base beneath it and its own.
-/
def Entered : List Pending → List Token → Prop
  | [], tokens => tokens = []
  | entry :: beneath, tokens =>
    ∃ before own count,
      tokens = before ++ own ++ [entry.token] ∧
        Entered beneath before ∧
        Leaves own count ∧
        entry.base = baseOf beneath + count ∧
        entry.Grounded beneath

/-- The tokens lead to the entries and, above the topmost base, to the rest of the operands. -/
def Reached
    (entries : List Pending)
    (tokens : List Token)
    (size : Nat) :
    Prop :=
  ∃ before own count,
    tokens = before ++ own ∧
      Entered entries before ∧
      Leaves own count ∧
      size = baseOf entries + count

/-- The machine is where the tokens lead. -/
def Reads
    (machine : Machine)
    (tokens : List Token) :
    Prop :=
  Reached machine.pending.entries tokens machine.operands.size

/-- Right behind a pending entry no value has ended. -/
theorem Entered.no_value_ended
    {entries : List Pending}
    {tokens : List Token}
    (entered : Entered entries tokens) :
    ∀ previous ∈ tokens.getLast?, previous.lexeme.endsValue = false := by
  intro previous last
  cases entries with
  | nil =>
    rw [show tokens = [] from entered] at last
    cases last
  | cons entry beneath =>
    rcases entered with ⟨before, own, _, rfl, _⟩
    rw [List.getLast?_concat] at last
    cases last
    exact entry.endsValue_token

/-- No parenthesis among the tokens is closed that was not opened. -/
theorem Entered.openAfter?_isSome
    {entries : List Pending}
    {tokens : List Token}
    (entered : Entered entries tokens) :
    ∃ depth, openAfter? 0 tokens = some depth := by
  induction entries generalizing tokens with
  | nil => exact ⟨0, by rw [show tokens = [] from entered]; rfl⟩
  | cons entry beneath inner =>
    rcases entered with ⟨before, own, _, rfl, lower, leaves, _⟩
    rcases inner lower with ⟨depth, opened⟩
    rw [Token.openAfter?_append, Token.openAfter?_append, opened, Option.bind_some,
      leaves.openAfter?_eq, Option.bind_some]
    cases entry with
    | operator symbol position base floor => exact ⟨depth, rfl⟩
    | group position base => exact ⟨depth + 1, rfl⟩

/-- More tokens that leave operands of their own. -/
theorem Reached.append
    {entries : List Pending}
    {tokens more : List Token}
    {size count : Nat}
    (reached : Reached entries tokens size)
    (leaves : Leaves more count) :
    Reached entries (tokens ++ more) (size + count) := by
  rcases reached with ⟨before, own, ownCount, rfl, entered, ownLeaves, rfl⟩
  exact ⟨before, own ++ more, ownCount + count, List.append_assoc before own more, entered,
    ownLeaves.append leaves, Nat.add_assoc _ ownCount count⟩

/-- A new entry on top. -/
theorem Reached.enter
    {entries : List Pending}
    {tokens : List Token}
    (entry : Pending)
    (reached : Reached entries tokens entry.base)
    (grounded : entry.Grounded entries) :
    Reached (entry :: entries) (tokens ++ [entry.token]) entry.base := by
  rcases reached with ⟨before, own, count, rfl, entered, leaves, based⟩
  exact ⟨before ++ own ++ [entry.token], [], 0, (List.append_nil _).symm,
    ⟨before, own, count, rfl, entered, leaves, based, grounded⟩, .nothing, rfl⟩

/-- An operator that has been carried out makes one operand of those on its two sides. -/
theorem Reached.carryOut
    {symbol : Operator}
    {position base floor size : Nat}
    {beneath : List Pending}
    {tokens : List Token}
    (reached : Reached (.operator symbol position base floor :: beneath) tokens (size + 1))
    (hasLeft : floor < base)
    (hasRight : base < size + 1) :
    Reached beneath tokens size := by
  rcases reached with ⟨_, right, rightCount, rfl, entered, rightLeaves, sized⟩
  rcases entered with ⟨before, left, leftCount, rfl, lower, leftLeaves, based, grounded⟩
  simp only [Pending.Grounded] at grounded
  simp only [Pending.baseOf_cons, Pending.base] at sized based
  have leftPositive : leftCount ≠ 0 := by omega
  have rightPositive : rightCount ≠ 0 := by omega
  rcases Nat.exists_eq_add_one_of_ne_zero leftPositive with ⟨leftSurplus, rfl⟩
  rcases Nat.exists_eq_add_one_of_ne_zero rightPositive with ⟨rightSurplus, rfl⟩
  refine ⟨before, left ++ ⟨.operator symbol, position⟩ :: right, leftSurplus + rightSurplus + 1,
    by simp [Pending.token], lower, leftLeaves.operator rightLeaves, by omega⟩

/-- A group that has been closed leaves the operands inside it. -/
theorem Reached.close
    {position base size closing : Nat}
    {beneath : List Pending}
    {tokens : List Token}
    (reached : Reached (.group position base :: beneath) tokens size)
    (filled : base < size) :
    Reached beneath (tokens ++ [⟨.closeGroup, closing⟩]) size := by
  rcases reached with ⟨_, inside, count, rfl, entered, leaves, sized⟩
  rcases entered with ⟨before, left, leftCount, rfl, lower, leftLeaves, based, _⟩
  simp only [Pending.baseOf_cons, Pending.base] at sized based
  have positive : count ≠ 0 := by omega
  rcases Nat.exists_eq_add_one_of_ne_zero positive with ⟨surplus, rfl⟩
  exact ⟨before, left ++ ⟨.openGroup, position⟩ :: (inside ++ [⟨.closeGroup, closing⟩]),
    leftCount + (surplus + 1), by simp [Pending.token], lower, leftLeaves.append (.group leaves),
    by omega⟩

/-! ## What each failure claims -/

/-- What a failure claims about the tokens of an expression. -/
def Justified (tokens : List Token) : Failure → Prop
  | .missingLeft symbol position =>
    ∃ before after,
      tokens = before ++ ⟨.operator symbol, position⟩ :: after ∧
        ∀ previous ∈ before.getLast?, previous.lexeme.endsValue = false
  | .missingRight symbol position =>
    ∃ before after,
      tokens = before ++ ⟨.operator symbol, position⟩ :: after ∧
        ∀ next ∈ after.head?, next.lexeme.beginsValue = false
  | .emptyGroup position =>
    ∃ before closing after,
      tokens = before ++ ⟨.openGroup, position⟩ :: ⟨.closeGroup, closing⟩ :: after
  | .unmatchedClose position =>
    ∃ before after, tokens = before ++ ⟨.closeGroup, position⟩ :: after ∧ Balanced before
  | .unclosedOpen position =>
    ∃ before after depth,
      tokens = before ++ ⟨.openGroup, position⟩ :: after ∧
        openAfter? 0 before = some depth ∧ Balanced after
  | .divisionByZero position =>
    ∃ before after, tokens = before ++ ⟨.operator .div, position⟩ :: after
  | .leftover count => Leaves tokens count ∧ 2 ≤ count
  | .emptyExpression => tokens = []
  | .unrecognizedToken _ _ => False
  | .unexpectedUnit _ _ => False
  | .notEnoughOperands _ _ => False

/-- Operators are carried out only before a token that begins no value. -/
theorem reduce_justified
    {context : Context}
    {symbol : Operator}
    {position base floor : Nat}
    {operands : Stack Decimal}
    {beneath : List Pending}
    {tokens rest : List Token}
    (reached : Reached (.operator symbol position base floor :: beneath) tokens operands.size)
    (noValue : ∀ next ∈ rest.head?, next.lexeme.beginsValue = false) :
    (reduce context symbol position base floor ⟨operands, ⟨beneath⟩⟩).Ensures
      (fun after _ => Reached beneath tokens after.operands.size)
      (fun _ problem => Justified (tokens ++ rest) problem) := by
  have reduced := reduces_reduce context symbol position base floor ⟨operands, ⟨beneath⟩⟩
  generalize reduce context symbol position base floor ⟨operands, ⟨beneath⟩⟩ = reaction
    at reduced ⊢
  cases reduced with
  | missingLeft noLeft =>
    rcases reached with ⟨_, right, _, rfl, entered, _, _⟩
    rcases entered with ⟨before, left, count, rfl, lower, leaves, based, grounded⟩
    simp only [Pending.Grounded] at grounded
    simp only [Pending.base] at based
    have none : count = 0 := by omega
    subst none
    have empty : left = [] := leaves.eq_nil
    subst empty
    exact ⟨before, right ++ rest, by simp [Pending.token], lower.no_value_ended⟩
  | missingRight _ noRight =>
    rcases reached with ⟨_, right, count, rfl, entered, leaves, sized⟩
    rcases entered with ⟨before, left, _, rfl, _⟩
    simp only [Pending.baseOf_cons, Pending.base] at sized noRight
    have none : count = 0 := by omega
    subst none
    have empty : right = [] := leaves.eq_nil
    subst empty
    exact ⟨before ++ left, rest, by simp [Pending.token], noValue⟩
  | divisionByZero _ _ isDivision _ =>
    rcases reached with ⟨_, right, _, rfl, entered, _, _⟩
    rcases entered with ⟨before, left, _, rfl, _⟩
    exact ⟨before ++ left, right ++ rest, by simp [Pending.token, isDivision]⟩
  | result hasLeft hasRight _ =>
    exact reached.carryOut hasLeft hasRight

theorem reduceWhile_justified
    {context : Context}
    {ready : Operator → Bool}
    {machine : Machine}
    {tokens rest : List Token}
    (reads : machine.Reads tokens)
    (noValue : ∀ next ∈ rest.head?, next.lexeme.beginsValue = false) :
    (reduceWhile context ready machine.operands machine.pending.entries).Ensures
      (fun after _ => after.Reads tokens ∧ Stopped ready after.pending.entries)
      (fun _ problem => Justified (tokens ++ rest) problem) :=
  reduceWhile_ensures
    (fun operands entries => Reached entries tokens operands.size)
    (fun _ _ _ _ _ _ reached => reduce_justified reached noValue) reads

theorem closeGroup_justified
    {machine : Machine}
    {tokens rest : List Token}
    {closing : Nat}
    (reads : machine.Reads tokens)
    (stopped : Stopped (fun _ => true) machine.pending.entries) :
    (closeGroup ⟨.closeGroup, closing⟩ machine).Ensures
      (fun after _ => after.Reads (tokens ++ [⟨.closeGroup, closing⟩]))
      (fun _ problem => Justified (tokens ++ ⟨.closeGroup, closing⟩ :: rest) problem) := by
  rcases machine with ⟨operands, ⟨entries⟩⟩
  rcases entries with _ | ⟨⟨symbol, position, base, floor⟩ | ⟨position, base⟩, beneath⟩
  · rcases reads with ⟨_, own, count, rfl, rfl, leaves, _⟩
    exact ⟨own, rest, rfl, leaves.balanced⟩
  · cases stopped symbol position base floor beneath rfl
  · unfold closeGroup
    split
    · rename_i position base beneath equal
      cases equal
      split
      · rename_i unfilled
        rcases reads with ⟨_, inside, count, rfl, entered, leaves, sized⟩
        rcases entered with ⟨before, left, _, rfl, _⟩
        simp only [Pending.baseOf_cons, Pending.base] at sized unfilled
        have none : count = 0 := by omega
        subst none
        have empty : inside = [] := leaves.eq_nil
        subst empty
        exact ⟨before ++ left, closing, rest, by simp [Pending.token]⟩
      · rename_i filled
        exact reads.close (by simpa using filled)
    · rename_i noGroup
      exact (noGroup position base beneath rfl).elim

theorem beginsValue_head
    {token : Token}
    {rest : List Token}
    (noValue : token.lexeme.beginsValue = false) :
    ∀ next ∈ (token :: rest).head?, next.lexeme.beginsValue = false := by
  intro next isNext
  cases isNext
  exact noValue

/-- Whatever is still to come after the token, a failure to feed it is justified. -/
theorem feed_justified
    {context : Context}
    {machine : Machine}
    {token : Token}
    {tokens : List Token}
    (reads : machine.Reads tokens)
    (rest : List Token) :
    (feed context machine token).Ensures
      (fun after _ => after.Reads (tokens ++ [token]))
      (fun _ problem => Justified (tokens ++ token :: rest) problem) := by
  rcases token with ⟨lexeme, position⟩
  cases lexeme with
  | number value written => exact reads.append .number
  | operator symbol =>
    simp only [feed]
    refine (reduceWhile_justified reads (beginsValue_head rfl)).andThen ?_
    intro after _ reduced
    exact Reached.enter (.operator symbol position after.operands.size after.topBase)
      reduced.1 after.topBase_eq
  | openGroup => exact Reached.enter (.group position machine.operands.size) reads trivial
  | closeGroup =>
    simp only [feed]
    refine (reduceWhile_justified reads (beginsValue_head rfl)).andThen ?_
    intro after _ reduced
    exact closeGroup_justified reduced.1 reduced.2

theorem feedAll_justified
    {context : Context}
    {machine : Machine}
    {tokens : List Token}
    (reads : machine.Reads tokens)
    (rest : List Token) :
    (feedAll context machine rest).Ensures
      (fun after _ => after.Reads (tokens ++ rest))
      (fun _ problem => Justified (tokens ++ rest) problem) := by
  induction rest generalizing machine tokens with
  | nil =>
    rw [List.append_nil]
    exact reads
  | cons token rest inner =>
    refine (feed_justified reads rest).andThen ?_
    intro after _ afterReads
    have fed := inner afterReads
    rwa [List.append_assoc] at fed

theorem takeValue_justified
    {machine : Machine}
    {tokens : List Token}
    (reads : machine.Reads tokens)
    (stopped : Stopped (fun _ => true) machine.pending.entries) :
    (takeValue machine).Ensures
      (fun _ _ => Leaves tokens 1)
      (fun _ problem => Justified tokens problem) := by
  rcases machine with ⟨⟨operands⟩, ⟨entries⟩⟩
  rcases entries with _ | ⟨⟨symbol, position, base, floor⟩ | ⟨position, base⟩, beneath⟩
  · rcases reads with ⟨_, own, count, rfl, rfl, leaves, sized⟩
    simp only [Stack.size, Pending.baseOf_nil, Nat.zero_add] at sized
    subst sized
    rcases operands with _ | ⟨value, _ | ⟨second, others⟩⟩
    · exact leaves.eq_nil
    · exact leaves
    · exact ⟨leaves, by simp [Stack.size]⟩
  · cases stopped symbol position base floor beneath rfl
  · rcases reads with ⟨_, inside, count, rfl, entered, leaves, _⟩
    rcases entered with ⟨before, left, _, rfl, lower, leftLeaves, _⟩
    rcases lower.openAfter?_isSome with ⟨depth, opened⟩
    refine ⟨before ++ left, inside, depth, by simp [Pending.token], ?_, leaves.balanced⟩
    rw [Token.openAfter?_append, opened, Option.bind_some, leftLeaves.openAfter?_eq]

theorem finish_justified
    {context : Context}
    {machine : Machine}
    {tokens : List Token}
    (reads : machine.Reads tokens) :
    (finish context machine).Ensures
      (fun _ _ => Leaves tokens 1)
      (fun _ problem => Justified tokens problem) := by
  have noValue : ∀ next ∈ ([] : List Token).head?, next.lexeme.beginsValue = false := by simp
  have reduced :
      (reduceGroup context machine).Ensures
        (fun after _ => after.Reads tokens ∧ Stopped (fun _ => true) after.pending.entries)
        (fun _ problem => Justified (tokens ++ []) problem) :=
    reduceWhile_justified reads noValue
  rw [List.append_nil] at reduced
  refine reduced.andThen ?_
  intro after _ afterReads
  exact takeValue_justified afterReads.1 afterReads.2

/-- A run succeeds only on tokens that leave one operand, and fails only with justification. -/
theorem run_justified
    (context : Context)
    (tokens : List Token) :
    (run context tokens).Ensures
      (fun _ _ => Leaves tokens 1)
      (fun _ problem => Justified tokens problem) := by
  have start : initial.Reads [] := ⟨[], [], 0, rfl, rfl, .nothing, rfl⟩
  refine (feedAll_justified start tokens).andThen ?_
  intro fed _ reads
  exact finish_justified reads

end Machine

end InfixCalc
