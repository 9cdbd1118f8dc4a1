import InfixCalc.Proofs.Token.Readers

/-!
# Tokens in their text

A text is read from the front: blanks are passed over, tokens are taken off, and
what has not been read is the rest.  `Layout` is this relation; it knows of no reader
and does not say where a literal has to end.  Since it accounts for every unit, tokens
have spans that do not overlap, each span holds what the token was written as, and
there are only blanks from one span to the next.
-/

namespace InfixCalc

/-! ## Spans -/

namespace Text

/-- The units from one position up to another one. -/
def slice
    (start stop : Nat)
    (text : Text) :
    Text :=
  (text.take stop).drop start

theorem slice_append
    (before middle after : Text) :
    slice before.length (before.length + middle.length) (before ++ (middle ++ after))
      = middle := by
  rw [slice, ← List.append_assoc, ← List.length_append, List.take_left, List.drop_left]

end Text

/-- The position right behind a token. -/
def Token.stop (token : Token) : Nat :=
  token.position + token.toText.length

/-- The tokens stand in the text one after the other, with nothing but blanks between them. -/
structure Spans
    (text : Text)
    (tokens : List Token) :
    Prop where
  increasing : (tokens.map Token.position).Pairwise (· < ·)
  apart : tokens.Pairwise fun earlier later => earlier.stop ≤ later.position
  slices : ∀ token ∈ tokens, text.slice token.position token.stop = token.toText
  between :
    ∀ first left right rest,
      tokens = first ++ left :: right :: rest →
        (text.slice left.stop right.position).isBlank

/-! ## Layouts -/

/--
From a position on, blanks and the tokens take up the text as far as the stop, where
the rest of it begins.
-/
inductive Layout : Nat → Text → List Token → Nat → Text → Prop where
  | done
      {position : Nat}
      {rest : Text} :
      Layout position rest [] position rest
  | blank
      {position stop : Nat}
      {unit : CodeUnit}
      {text rest : Text}
      {tokens : List Token} :
      unit.isBlank →
      Layout (position + 1) text tokens stop rest →
      Layout position (unit :: text) tokens stop rest
  | token
      {position stop : Nat}
      {lexeme : Lexeme}
      {text rest : Text}
      {tokens : List Token} :
      lexeme.Written lexeme.toText →
      Layout (position + lexeme.toText.length) text tokens stop rest →
      Layout position (lexeme.toText ++ text) (⟨lexeme, position⟩ :: tokens) stop rest

namespace Layout

variable
    {position stop : Nat}
    {text rest : Text}
    {tokens : List Token}

theorem lexeme
    {lexeme : Lexeme}
    {run : Text}
    (written : lexeme.Written run)
    (layout : Layout (position + run.length) text tokens stop rest) :
    Layout position (run ++ text) (⟨lexeme, position⟩ :: tokens) stop rest := by
  have same := written.toText_eq
  subst same
  exact .token written layout

/-- The stop is as far away as the rest. -/
theorem exists_covered
    (layout : Layout position text tokens stop rest) :
    ∃ covered, text = covered ++ rest ∧ stop = position + covered.length := by
  induction layout with
  | done => exact ⟨[], rfl, rfl⟩
  | @blank position stop unit text rest tokens _ _ inner =>
    rcases inner with ⟨covered, rfl, rfl⟩
    refine ⟨unit :: covered, rfl, ?_⟩
    rw [List.length_cons]
    omega
  | @token position stop lexeme text rest tokens _ _ inner =>
    rcases inner with ⟨covered, rfl, rfl⟩
    refine ⟨lexeme.toText ++ covered, (List.append_assoc _ _ _).symm, ?_⟩
    rw [List.length_append]
    omega

/-- Where there are no tokens there are blanks. -/
theorem exists_gap
    (layout : Layout position text [] stop rest) :
    ∃ gap, text = gap ++ rest ∧ stop = position + gap.length ∧ gap.isBlank := by
  generalize none : ([] : List Token) = tokens at layout
  induction layout with
  | done => exact ⟨[], rfl, rfl, rfl⟩
  | @blank position stop unit text rest tokens blank _ inner =>
    rcases inner none with ⟨gap, rfl, rfl, gapBlank⟩
    refine ⟨unit :: gap, rfl, ?_, ?_⟩
    · rw [List.length_cons]
      omega
    · rw [Text.isBlank, List.all_cons, blank]
      exact gapBlank
  | token => cases none

/-- A layout goes up to any of its tokens and on from there. -/
theorem split
    {first others : List Token}
    {token : Token}
    (layout : Layout position text (first ++ token :: others) stop rest) :
    token.lexeme.Written token.toText ∧
      ∃ after,
        Layout position text first token.position (token.toText ++ after) ∧
          Layout token.stop after others stop rest := by
  generalize all : first ++ token :: others = tokens at layout
  induction layout generalizing first with
  | done => simp at all
  | blank blank _ inner =>
    rcases inner all with ⟨written, after, before, behind⟩
    exact ⟨written, after, .blank blank before, behind⟩
  | @token position stop lexeme text rest tokens written layout inner =>
    cases first with
    | nil =>
      cases all
      exact ⟨written, text, .done, layout⟩
    | cons head first =>
      rcases List.cons.inj all with ⟨rfl, later⟩
      rcases inner later with ⟨tokenWritten, after, before, behind⟩
      exact ⟨tokenWritten, after, .token written before, behind⟩

/-- Every token stands in the text, written as itself. -/
theorem exists_before
    (layout : Layout position text tokens stop rest)
    {token : Token}
    (member : token ∈ tokens) :
    token.lexeme.Written token.toText ∧
      ∃ before after,
        text = before ++ (token.toText ++ after) ∧ token.position = position + before.length := by
  rcases List.append_of_mem member with ⟨first, others, rfl⟩
  rcases layout.split with ⟨written, after, upTo, _⟩
  rcases upTo.exists_covered with ⟨before, same, place⟩
  exact ⟨written, before, after, same, place⟩

theorem apart
    (layout : Layout position text tokens stop rest) :
    tokens.Pairwise fun earlier later => earlier.stop ≤ later.position := by
  induction layout with
  | done => exact .nil
  | blank _ _ inner => exact inner
  | @token position stop lexeme text rest tokens _ layout inner =>
    refine .cons ?_ inner
    intro later member
    rcases layout.exists_before member with ⟨_, before, after, _, place⟩
    rw [place]
    exact Nat.le_add_right _ _

/-- Tokens that are laid out from the beginning of a text have their spans in it. -/
theorem spans
    (layout : Layout 0 text tokens stop rest) :
    Spans text tokens := by
  have apart := layout.apart
  refine ⟨?_, apart, ?_, ?_⟩
  · rw [List.pairwise_map]
    refine apart.imp_of_mem ?_
    intro earlier later member _ behind
    have written := (layout.exists_before member).1
    have long := List.length_pos_iff.mpr written.ne_nil
    unfold Token.stop at behind
    omega
  · intro token member
    rcases layout.exists_before member with ⟨_, before, after, rfl, place⟩
    rw [Token.stop, place, Nat.zero_add]
    exact Text.slice_append before token.toText after
  · rintro first left right others rfl
    rcases layout.split with ⟨_, middle, upTo, behind⟩
    rcases upTo.exists_covered with ⟨before, rfl, place⟩
    have following : Layout left.stop middle ([] ++ right :: others) stop rest := behind
    rcases following.split with ⟨_, after, blanks, _⟩
    rcases blanks.exists_gap with ⟨gap, rfl, rightPlace, blank⟩
    have leftStop : left.stop = (before ++ left.toText).length := by
      rw [Token.stop, place, Nat.zero_add, List.length_append]
    rw [rightPlace, leftStop, ← List.append_assoc before, Text.slice_append]
    exact blank

end Layout

end InfixCalc
