import InfixCalc.Proofs.Token.Adjacency

/-!
# Partners of parentheses

Two parentheses are partners if those between them match.  `Unopened` and `Unclosed`
say of one parenthesis that it has no partner, looking only at the tokens on one side
of it; `Token.openAfter?` counts open groups from left to right instead.

The count tells which parentheses have partners.  As long as it does not fail, every
closing one has one, and where it comes back to zero, so has every opening one.
-/

namespace InfixCalc

namespace Lexeme

variable
    {lexeme : Lexeme}
    {previous depth : Nat}

/-- A parenthesis changes the number of open groups by one, and no other lexeme changes it. -/
theorem openAfter?_cases (opened : lexeme.openAfter? previous = some depth) :
    (lexeme = openGroup ∧ depth = previous + 1) ∨
      (lexeme = closeGroup ∧ previous = depth + 1) ∨
      (depth = previous ∧ ∀ other, lexeme.openAfter? other = some other) := by
  cases lexeme with
  | number value written =>
    cases opened
    exact .inr (.inr ⟨rfl, fun _ => rfl⟩)
  | operator symbol =>
    cases opened
    exact .inr (.inr ⟨rfl, fun _ => rfl⟩)
  | openGroup =>
    cases opened
    exact .inl ⟨rfl, rfl⟩
  | closeGroup =>
    cases previous with
    | zero => cases opened
    | succ outer =>
      cases opened
      exact .inr (.inl ⟨rfl, rfl⟩)

/-- Groups that stay open throughout make no difference. -/
theorem openAfter?_sub
    {below : Nat}
    (opened : lexeme.openAfter? previous = some depth)
    (before : below ≤ previous)
    (after : below ≤ depth) :
    lexeme.openAfter? (previous - below) = some (depth - below) := by
  rcases openAfter?_cases opened with ⟨rfl, rfl⟩ | ⟨rfl, rfl⟩ | ⟨rfl, keeps⟩
  · rw [openAfter?, Nat.sub_add_comm before]
  · rw [Nat.sub_add_comm after]
    rfl
  · exact keeps _

end Lexeme

namespace Token

/-- A closing parenthesis right behind these tokens has no partner. -/
def Unopened (before : List Token) : Prop :=
  ∀ outer opening inside,
    before = outer ++ ⟨.openGroup, opening⟩ :: inside → ¬ Balanced inside

/-- An opening parenthesis right in front of these tokens has no partner. -/
def Unclosed (after : List Token) : Prop :=
  ∀ inside closing outer,
    after = inside ++ ⟨.closeGroup, closing⟩ :: outer → ¬ Balanced inside

/-- What is left open begins, for every depth, with the parenthesis that led there. -/
theorem exists_opening
    {tokens : List Token}
    {depth place : Nat}
    (opened : openAfter? 0 tokens = some depth)
    (isOpen : place < depth) :
    ∃ outer opening inside,
      tokens = outer ++ ⟨.openGroup, opening⟩ :: inside ∧
        openAfter? 0 inside = some (depth - (place + 1)) := by
  induction tokens using List.reverseRecOn generalizing depth with
  | nil =>
    cases opened
    cases isOpen
  | append_singleton before token inner =>
    rw [openAfter?_append, Option.bind_eq_some_iff] at opened
    rcases opened with ⟨previous, earlier, last⟩
    rw [openAfter?_cons, Option.bind_eq_some_iff] at last
    rcases last with ⟨_, step, same⟩
    cases same
    by_cases already : place < previous
    · rcases inner earlier already with ⟨outer, opening, inside, rfl, within⟩
      refine ⟨outer, opening, inside ++ [token], by simp, ?_⟩
      rw [openAfter?_append, within, Option.bind_some, openAfter?_cons,
        Lexeme.openAfter?_sub step already isOpen]
      rfl
    · rcases token with ⟨lexeme, position⟩
      rcases Lexeme.openAfter?_cases step with ⟨rfl, rfl⟩ | ⟨_, _⟩ | ⟨_, _⟩
      · have noneLeft : previous + 1 - (place + 1) = 0 := by omega
        exact ⟨before, position, [], rfl, by rw [noneLeft]; rfl⟩
      · omega
      · omega

/-- What comes below a depth has closed the group that was innermost there. -/
theorem exists_closing
    {tokens : List Token}
    {depth extra last : Nat}
    (closed : openAfter? (extra + (depth + 1)) tokens = some last)
    (below : last ≤ depth) :
    ∃ inside closing outer,
      tokens = inside ++ ⟨.closeGroup, closing⟩ :: outer ∧ openAfter? extra inside = some 0 := by
  induction tokens generalizing extra with
  | nil =>
    cases closed
    omega
  | cons token rest inner =>
    rw [openAfter?_cons, Option.bind_eq_some_iff] at closed
    rcases closed with ⟨next, step, later⟩
    by_cases stillOpen : depth + 1 ≤ next
    · rw [← Nat.sub_add_cancel stillOpen] at later
      rcases inner later with ⟨inside, closing, outer, rfl, within⟩
      have shifted := Lexeme.openAfter?_sub step (Nat.le_add_left _ extra) stillOpen
      rw [Nat.add_sub_cancel] at shifted
      refine ⟨token :: inside, closing, outer, rfl, ?_⟩
      rw [openAfter?_cons, shifted]
      exact within
    · rcases token with ⟨lexeme, position⟩
      rcases Lexeme.openAfter?_cases step with ⟨_, _⟩ | ⟨rfl, _⟩ | ⟨_, _⟩
      · omega
      · have noExtra : extra = 0 := by omega
        exact ⟨[], position, rest, rfl, by rw [noExtra]; rfl⟩
      · omega

/-! ## What the count says -/

/-- With no group open, a closing parenthesis has no partner. -/
theorem Balanced.unopened
    {before : List Token}
    (balanced : Balanced before) :
    Unopened before := by
  rintro outer opening inside rfl within
  rw [Balanced, openAfter?_append, Option.bind_eq_some_iff] at balanced
  rcases balanced with ⟨depth, _, rest⟩
  have opened := openAfter?_add within (depth + 1)
  rw [openAfter?_cons, Lexeme.openAfter?, Option.bind_some] at rest
  rw [Nat.zero_add, rest] at opened
  cases opened

/-- Where nothing is closed that was not opened, a closing parenthesis has a partner. -/
theorem not_unopened
    {before after : List Token}
    {closing depth : Nat}
    (opened : openAfter? 0 (before ++ ⟨.closeGroup, closing⟩ :: after) = some depth) :
    ¬ Unopened before := by
  intro noPartner
  rw [openAfter?_append, Option.bind_eq_some_iff] at opened
  rcases opened with ⟨_ | outerDepth, earlier, rest⟩
  · cases rest
  · rcases exists_opening earlier (Nat.lt_succ_self outerDepth) with
      ⟨outer, opening, inside, equal, within⟩
    rw [Nat.sub_self] at within
    exact noPartner outer opening inside equal within

/-- Nothing in tokens that match closes a group in front of them. -/
theorem Balanced.unclosed
    {after : List Token}
    (balanced : Balanced after) :
    Unclosed after := by
  rintro inside closing outer rfl within
  rw [Balanced, openAfter?_append, show openAfter? 0 inside = some 0 from within,
    Option.bind_some, openAfter?_cons] at balanced
  cases balanced

/-- In tokens that match, an opening parenthesis has a partner. -/
theorem Balanced.not_unclosed
    {between later : List Token}
    {opening : Nat}
    (balanced : Balanced (between ++ ⟨.openGroup, opening⟩ :: later)) :
    ¬ Unclosed later := by
  intro noPartner
  rw [Balanced, openAfter?_append, Option.bind_eq_some_iff] at balanced
  rcases balanced with ⟨depth, _, rest⟩
  rw [openAfter?_cons, Lexeme.openAfter?, Option.bind_some, ← Nat.zero_add (depth + 1)] at rest
  rcases exists_closing rest (Nat.zero_le depth) with ⟨inside, closing, outer, equal, within⟩
  exact noPartner inside closing outer equal within

end Token

end InfixCalc
