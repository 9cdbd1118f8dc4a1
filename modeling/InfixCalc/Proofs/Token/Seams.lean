import InfixCalc.Proofs.Machine.Relocation
import InfixCalc.Proofs.Token.Readers

/-!
# Reading across blanks

A reader looks ahead of the unit it is at, but no further than a blank: a run ends
there, and so does every literal.  So a text in front of a blank is read as it is
read by itself, to its end or up to the same failure.  Behind the blanks the reading
begins anew, as from the beginning of a text, only that every position is that much
greater.
-/

namespace InfixCalc

/-! ## Scans one after the other -/

namespace Scan

/-- The second scan goes on if the first one has come to its end. -/
def followedBy (first second : Scan) : Scan :=
  match first.failure with
  | none => ⟨first.tokens ++ second.tokens, second.failure⟩
  | some problem => ⟨first.tokens, some problem⟩

/-- The scan of the same lexemes at other places. -/
def relocate
    (move : Nat → Nat)
    (scan : Scan) :
    Scan :=
  ⟨scan.tokens.map (Token.relocate move), scan.failure.map (Failure.relocate move)⟩

@[simp]
theorem done_followedBy (second : Scan) : done.followedBy second = second := rfl

@[simp]
theorem stopped_followedBy
    (problem : Failure)
    (second : Scan) :
    (stopped problem).followedBy second = stopped problem := rfl

@[simp]
theorem cons_followedBy
    (token : Token)
    (first second : Scan) :
    (first.cons token).followedBy second = (first.followedBy second).cons token := by
  rcases first with ⟨tokens, _ | problem⟩ <;> rfl

end Scan

/-! ## Ends of literals -/

section

variable
    {α : Type}
    {keeps : α → Bool}
    {after : List α}
    (stops : ∀ member ∈ after.head?, keeps member = false)

include stops

theorem takeWhile_append_of_stops (first : List α) :
    (first ++ after).takeWhile keeps = first.takeWhile keeps := by
  induction first with
  | nil =>
    cases after with
    | nil => rfl
    | cons member rest => simp [stops member rfl]
  | cons member rest inner => cases kept : keeps member <;> simp [kept, inner]

theorem dropWhile_append_of_stops (first : List α) :
    (first ++ after).dropWhile keeps = first.dropWhile keeps ++ after := by
  induction first with
  | nil =>
    cases after with
    | nil => rfl
    | cons member rest => simp [stops member rfl]
  | cons member rest inner => cases kept : keeps member <;> simp [kept, inner]

end

namespace Literal

variable
    {after : Text}
    (ends : ∀ unit ∈ after.head?, unit.endsLiteral)

include ends

theorem takeFraction_append (text : Text) :
    takeFraction (text ++ after) = takeFraction text := by
  cases text with
  | nil => exact (fraction_of_endsLiteral ends).1
  | cons unit rest =>
    rw [List.cons_append, takeFraction, takeFraction,
      takeWhile_append_of_stops (isDigit_of_endsLiteral ends)]

theorem dropFraction_append (text : Text) :
    dropFraction (text ++ after) = dropFraction text ++ after := by
  cases text with
  | nil => exact (fraction_of_endsLiteral ends).2
  | cons unit rest =>
    rw [List.cons_append, dropFraction, dropFraction,
      takeWhile_append_of_stops (isDigit_of_endsLiteral ends),
      dropWhile_append_of_stops (isDigit_of_endsLiteral ends)]
    split <;> rfl

/-- Behind a text that ends a literal, the longest literal of the text is not any longer. -/
theorem take_append (text : Text) : take (text ++ after) = take text := by
  rw [take, take, takeWhile_append_of_stops (isDigit_of_endsLiteral ends),
    dropWhile_append_of_stops (isDigit_of_endsLiteral ends), takeFraction_append ends]

theorem drop_append (text : Text) : drop (text ++ after) = drop text ++ after := by
  rw [drop, drop, dropWhile_append_of_stops (isDigit_of_endsLiteral ends),
    dropFraction_append ends]

end Literal

/-! ## In front of blanks -/

namespace Lexer

theorem runs_append_of_blank
    {after : Text}
    (ends : ∀ unit ∈ after.head?, unit.isBlank)
    (position : Nat)
    (text : Text) :
    runs position (text ++ after) = runs position text ++ runs (position + text.length) after := by
  have stops : ∀ unit ∈ after.head?, (!unit.isBlank) = false := by
    intro unit next
    rw [ends unit next]
    rfl
  fun_induction runs position text with
  | case1 position => rfl
  | case2 position unit rest blank inner =>
    rw [List.cons_append, runs_blank blank, inner, List.length_cons, Nat.add_right_comm,
      Nat.add_assoc]
  | case3 position unit rest notBlank tail inner =>
    have whole : tail.length + (rest.dropWhile fun unit => !unit.isBlank).length = rest.length := by
      rw [← List.length_append, List.takeWhile_append_dropWhile]
    rw [List.cons_append, runs.eq_def]
    dsimp only
    rw [if_neg notBlank, takeWhile_append_of_stops stops, dropWhile_append_of_stops stops, inner,
      List.cons_append, List.length_cons, ← whole]
    congr 3
    omega

theorem ofRuns_append (first second : List (Nat × Text)) :
    ofRuns (first ++ second) = (ofRuns first).followedBy (ofRuns second) := by
  induction first with
  | nil => rfl
  | cons entry rest inner =>
    rcases entry with ⟨position, run⟩
    rw [List.cons_append, ofRuns, ofRuns]
    cases lexemeOfRun? run with
    | none => rfl
    | some lexeme => rw [Scan.cons_followedBy, inner]

theorem boundaryFrom_followedBy
    {after : Text}
    (ends : ∀ unit ∈ after.head?, unit.endsLiteral)
    (position : Nat)
    (text : Text) :
    boundaryFrom position (text ++ after)
      = (boundaryFrom position text).followedBy (boundaryFrom (position + text.length) after) := by
  fun_induction boundaryFrom position text with
  | case1 position => rfl
  | case2 position unit rest blank inner =>
    rw [List.cons_append, boundaryFrom_blank blank, inner, List.length_cons, Nat.add_right_comm,
      Nat.add_assoc]
  | case3 position unit rest notBlank lexeme symbol inner =>
    rw [List.cons_append, boundaryFrom_symbol (Lexeme.ofSymbol?_eq_some_iff.mp symbol), inner,
      Scan.cons_followedBy, List.length_cons, Nat.add_right_comm, Nat.add_assoc]
  | case4 position unit rest notBlank noSymbol literal noLiteral =>
    have taken := Literal.take_append ends (unit :: rest)
    rw [List.cons_append] at taken ⊢
    rw [boundaryFrom_of_take_nil notBlank noSymbol (taken.trans noLiteral),
      Scan.stopped_followedBy]
  | case5 position unit rest notBlank noSymbol literal follows nonempty point =>
    have taken := Literal.take_append ends (unit :: rest)
    have dropped := Literal.drop_append ends (unit :: rest)
    have behind : (follows ++ after).head? = some 0x2E := by
      rw [List.head?_append, point]
      rfl
    rw [List.cons_append] at taken dropped ⊢
    rw [boundaryFrom_of_point notBlank noSymbol (by rwa [taken]) (by rwa [dropped]), taken,
      Scan.stopped_followedBy]
  | case6 position unit rest notBlank noSymbol literal follows nonempty noPoint inner =>
    have taken := Literal.take_append ends (unit :: rest)
    have dropped := Literal.drop_append ends (unit :: rest)
    have whole : literal.length + follows.length = (unit :: rest).length := by
      rw [← List.length_append, Literal.take_append_drop]
    have behind : (follows ++ after).head? ≠ some 0x2E := by
      cases empty : follows with
      | nil =>
        intro point
        cases ends 0x2E point
      | cons next others => rwa [empty] at noPoint
    rw [List.cons_append] at taken dropped ⊢
    rw [boundaryFrom_of_literal notBlank noSymbol (by rwa [taken]) (by rwa [dropped]), taken,
      dropped, inner, Scan.cons_followedBy, Nat.add_assoc, whole]

/-! ## Behind blanks -/

theorem runs_shift
    (distance position : Nat)
    (text : Text) :
    runs (position + distance) text
      = (runs position text).map fun entry => (entry.1 + distance, entry.2) := by
  fun_induction runs position text with
  | case1 position => simp
  | case2 position unit rest blank inner =>
    rw [runs_blank blank, Nat.add_right_comm, inner]
  | case3 position unit rest notBlank tail inner =>
    rw [runs.eq_def]
    dsimp only
    rw [if_neg notBlank, List.map_cons, ← inner]
    congr 2
    simp only [tail]
    omega

theorem ofRuns_relocate
    (move : Nat → Nat)
    (entries : List (Nat × Text)) :
    ofRuns (entries.map fun entry => (move entry.1, entry.2)) = (ofRuns entries).relocate move := by
  induction entries with
  | nil => rfl
  | cons entry rest inner =>
    rcases entry with ⟨position, run⟩
    rw [List.map_cons, ofRuns, ofRuns]
    cases lexemeOfRun? run with
    | none => rfl
    | some lexeme =>
      dsimp only
      rw [inner]
      rfl

theorem boundaryFrom_shift
    (distance position : Nat)
    (text : Text) :
    boundaryFrom (position + distance) text
      = (boundaryFrom position text).relocate (· + distance) := by
  fun_induction boundaryFrom position text with
  | case1 position =>
    rw [boundaryFrom_nil]
    rfl
  | case2 position unit rest blank inner =>
    rw [boundaryFrom_blank blank, Nat.add_right_comm, inner]
  | case3 position unit rest notBlank lexeme symbol inner =>
    rw [boundaryFrom_symbol (Lexeme.ofSymbol?_eq_some_iff.mp symbol), Nat.add_right_comm, inner]
    rfl
  | case4 position unit rest notBlank noSymbol literal noLiteral =>
    rw [boundaryFrom_of_take_nil notBlank noSymbol noLiteral]
    rfl
  | case5 position unit rest notBlank noSymbol literal follows nonempty point =>
    rw [boundaryFrom_of_point notBlank noSymbol nonempty point, Nat.add_right_comm]
    rfl
  | case6 position unit rest notBlank noSymbol literal follows nonempty noPoint inner =>
    rw [boundaryFrom_of_literal notBlank noSymbol nonempty noPoint, Nat.add_right_comm, inner]
    rfl

end Lexer

/-! ## Both readers -/

namespace LexerMode

/-- The tokens of a text that stands at a position. -/
def scanFrom
    (mode : LexerMode)
    (position : Nat)
    (text : Text) :
    Scan :=
  match mode with
  | whitespace => Lexer.ofRuns (Lexer.runs position text)
  | boundary => Lexer.boundaryFrom position text

theorem scanFrom_zero
    (mode : LexerMode)
    (text : Text) :
    mode.scanFrom 0 text = mode.scan text := by
  cases mode <;> rfl

/-- A text in front of a blank is read as it is by itself. -/
theorem scanFrom_append
    (mode : LexerMode)
    {after : Text}
    (ends : ∀ unit ∈ after.head?, unit.isBlank)
    (position : Nat)
    (text : Text) :
    mode.scanFrom position (text ++ after)
      = (mode.scanFrom position text).followedBy
          (mode.scanFrom (position + text.length) after) := by
  cases mode with
  | whitespace =>
    simp only [scanFrom]
    rw [Lexer.runs_append_of_blank ends, Lexer.ofRuns_append]
  | boundary =>
    exact Lexer.boundaryFrom_followedBy
      (fun unit next => CodeUnit.endsLiteral_of_isBlank (ends unit next)) position text

/-- Blanks are passed over. -/
theorem scanFrom_blanks
    (mode : LexerMode)
    {blanks : Text}
    (blank : blanks.isBlank)
    (position : Nat)
    (text : Text) :
    mode.scanFrom position (blanks ++ text) = mode.scanFrom (position + blanks.length) text := by
  induction blanks generalizing position with
  | nil => rfl
  | cons unit rest inner =>
    rw [Text.isBlank, List.all_cons, Bool.and_eq_true] at blank
    have further := inner blank.2 (position + 1)
    rw [List.length_cons, Nat.add_comm rest.length, ← Nat.add_assoc, ← further, List.cons_append]
    cases mode with
    | whitespace => exact congrArg Lexer.ofRuns (Lexer.runs_blank blank.1)
    | boundary => exact Lexer.boundaryFrom_blank blank.1

/-- Where a text stands matters for positions only. -/
theorem scanFrom_shift
    (mode : LexerMode)
    (distance position : Nat)
    (text : Text) :
    mode.scanFrom (position + distance) text
      = (mode.scanFrom position text).relocate (· + distance) := by
  cases mode with
  | whitespace =>
    simp only [scanFrom]
    rw [Lexer.runs_shift]
    exact Lexer.ofRuns_relocate (· + distance) _
  | boundary => exact Lexer.boundaryFrom_shift distance position text

theorem scan_across_blanks
    (mode : LexerMode)
    (first : Text)
    {blanks : Text}
    (nonempty : blanks ≠ [])
    (blank : blanks.isBlank)
    (second : Text) :
    mode.scan (first ++ blanks ++ second)
      = (mode.scan first).followedBy
          ((mode.scan second).relocate (· + (first.length + blanks.length))) := by
  have ends : ∀ unit ∈ (blanks ++ second).head?, unit.isBlank := by
    cases blanks with
    | nil => exact (nonempty rfl).elim
    | cons head rest =>
      rintro unit ⟨⟩
      exact List.all_eq_true.mp blank head List.mem_cons_self
  have behind : mode.scanFrom (0 + first.length) (blanks ++ second)
      = (mode.scan second).relocate (· + (first.length + blanks.length)) := by
    rw [mode.scanFrom_blanks blank, Nat.add_assoc, mode.scanFrom_shift, scanFrom_zero]
  rw [← scanFrom_zero, List.append_assoc, mode.scanFrom_append ends, behind, scanFrom_zero]

end LexerMode

/--
What a reader complains of is described alike wherever it is, and the place is named behind it.
-/
theorem Failure.located_of_lexical
    {problem : Failure}
    (lexical : problem.code = .lexical) :
    ∃ description position,
      problem.position? = some position ∧
        problem.message = located description position ∧
        ∀ move,
          (problem.relocate move).position? = some (move position) ∧
            (problem.relocate move).message = located description (move position) := by
  cases problem with
  | unrecognizedToken run position => exact ⟨_, position, rfl, rfl, fun _ => ⟨rfl, rfl⟩⟩
  | unexpectedUnit unit position => exact ⟨_, position, rfl, rfl, fun _ => ⟨rfl, rfl⟩⟩
  | _ => cases lexical

/--
Blanks keep texts apart, for either reader.  If the text in front of them cannot be
read, then the whole text comes to the same tokens and the same failure.  If it can
be read, its tokens are followed by those of the text behind the blanks, each of them
as much further on as there are units in front of that text; and the whole text can
be read just if the second one can.  The failure is that of the second text, of the
same kind and with the same words; only the position is moved, and its numeral at the
end of the message.
-/
theorem scans_compose
    (mode : LexerMode)
    (first : Text)
    {blanks : Text}
    (nonempty : blanks ≠ [])
    (blank : blanks.isBlank)
    (second : Text) :
    let before := mode.scan first
    let after := mode.scan second
    let whole := mode.scan (first ++ blanks ++ second)
    let move := fun position => position + (first.length + blanks.length)
    (∀ problem, before.failure = some problem → whole = before) ∧
      (before.failure = none →
        whole.tokens = before.tokens ++ after.tokens.map (Token.relocate move) ∧
          (after.failure = none → whole.failure = none) ∧
          ∀ problem, after.failure = some problem →
            whole.failure = some (problem.relocate move) ∧
              (problem.relocate move).code = problem.code ∧
              ∃ description position,
                problem.position? = some position ∧
                  problem.message = Failure.located description position ∧
                  (problem.relocate move).position? = some (move position) ∧
                  (problem.relocate move).message
                    = Failure.located description (move position)) := by
  intro before after whole move
  have composed : whole = before.followedBy (after.relocate move) :=
    mode.scan_across_blanks first nonempty blank second
  constructor
  · intro problem failed
    rw [composed, Scan.followedBy, failed]
    dsimp only
    rw [← failed]
  · intro readToEnd
    rw [Scan.followedBy, readToEnd] at composed
    have tokens : whole.tokens = before.tokens ++ after.tokens.map (Token.relocate move) :=
      congrArg Scan.tokens composed
    have failure : whole.failure = after.failure.map (Failure.relocate move) :=
      congrArg Scan.failure composed
    refine ⟨tokens, ?_, ?_⟩
    · intro secondReadToEnd
      rw [failure, secondReadToEnd]
      rfl
    · intro problem failed
      have lexical := (mode.faithful_scan second).lexical problem failed
      rcases Failure.located_of_lexical lexical with
        ⟨description, position, blamed, message, moved⟩
      refine ⟨?_, Failure.code_relocate move problem, description, position, blamed, message,
        moved move⟩
      rw [failure, failed]
      rfl

/-- The point that ends the second text is blamed where it stands in the whole text. -/
theorem scans_compose_point_at_end :
    (LexerMode.boundary.scan (text "(2" ++ text " \t" ++ text "+7.")).tokens
        = [⟨.openGroup, 0⟩, ⟨.number (.finite false 2 0) (text "2"), 1⟩, ⟨.operator .add, 4⟩] ∧
      (LexerMode.boundary.scan (text "(2" ++ text " \t" ++ text "+7.")).failure
        = some (.unexpectedUnit 0x2E 6) := by
  have readable : (LexerMode.boundary.scan (text "(2")).failure = none := by
    decide +kernel
  have stopped :
      (LexerMode.boundary.scan (text "+7.")).failure = some (.unexpectedUnit 0x2E 2) := by
    decide +kernel
  have blanks : text " \t" ≠ [] := by decide
  have composed := scans_compose .boundary (text "(2") blanks (by decide) (text "+7.")
  rcases composed.2 readable with ⟨tokens, _, failure⟩
  refine ⟨?_, (failure _ stopped).1⟩
  rw [tokens]
  decide +kernel

end InfixCalc
