import InfixCalc.Proofs.Token.Scan
import InfixCalc.Proofs.Token.Written

/-!
# The two readers side by side

Whatever run the whitespace reader takes as a lexeme, the boundary reader takes
as the same lexeme, since a blank ends every literal.  So the two stay together
up to the first run that is no lexeme; there the whitespace reader stops, and
the boundary reader goes on or stops, but not before.

Lexemes that are written with single blanks between them are the runs that the
whitespace reader finds, so it reads them back one by one.
-/

namespace InfixCalc

/-! ## Runs -/

namespace Lexer

variable
    {lexeme : Lexeme}
    {run after : Text}
    {position : Nat}

theorem dropWhile_begins_blank
    (text : Text) :
    ∀ unit ∈ (text.dropWhile fun unit => !unit.isBlank).head?, unit.isBlank := by
  intro unit next
  have stopped := List.head?_dropWhile_not (fun unit : CodeUnit => !unit.isBlank) text
  rw [next] at stopped
  simpa using stopped

@[simp]
theorem runs_nil : runs position [] = [] := by
  rw [runs.eq_def]

theorem runs_blank
    {unit : CodeUnit}
    (blank : unit.isBlank) :
    runs position (unit :: after) = runs (position + 1) after := by
  rw [runs.eq_def]
  exact if_pos blank

theorem boundaryFrom_nil : boundaryFrom position [] = .done := by
  rw [boundaryFrom.eq_def]

theorem boundaryFrom_blank
    {unit : CodeUnit}
    (blank : unit.isBlank) :
    boundaryFrom position (unit :: after) = boundaryFrom (position + 1) after := by
  rw [boundaryFrom.eq_def]
  exact if_pos blank

theorem runs_append
    (nonempty : run ≠ [])
    (noBlank : ∀ unit ∈ run, unit.isBlank = false)
    (ends : ∀ unit ∈ after.head?, unit.isBlank) :
    runs position (run ++ after) = (position, run) :: runs (position + run.length) after := by
  cases run with
  | nil => exact (nonempty rfl).elim
  | cons unit rest =>
    have first : unit.isBlank = false := noBlank unit List.mem_cons_self
    have inside : ∀ unit ∈ rest, (!unit.isBlank) = true := by
      intro unit member
      rw [noBlank unit (List.mem_cons_of_mem _ member)]
      rfl
    have taken : (rest ++ after).takeWhile (fun unit => !unit.isBlank) = rest := by
      rw [List.takeWhile_append_of_pos inside]
      cases after with
      | nil => simp
      | cons unit _ => simp [ends unit rfl]
    have dropped : (rest ++ after).dropWhile (fun unit => !unit.isBlank) = after := by
      rw [List.dropWhile_append_of_pos inside]
      cases after with
      | nil => simp
      | cons unit _ => simp [ends unit rfl]
    rw [List.cons_append, runs.eq_def]
    dsimp only
    rw [if_neg (by simp [first]), taken, dropped]
    rfl

/-- A symbol is a token whatever follows it. -/
theorem boundaryFrom_symbol
    {unit : CodeUnit}
    (member : (unit, lexeme) ∈ Lexeme.symbols) :
    boundaryFrom position (unit :: after)
      = (boundaryFrom (position + 1) after).cons ⟨lexeme, position⟩ := by
  have read := Lexeme.ofSymbol?_eq_some_iff.mpr member
  have notBlank := (Lexeme.toText_of_mem_symbols member).2.1
  rw [boundaryFrom.eq_def]
  dsimp only
  rw [if_neg (by simp [notBlank]), read]

section

variable
    {unit : CodeUnit}
    {rest : Text}
    (notBlank : ¬ unit.isBlank)
    (noSymbol : Lexeme.ofSymbol? unit = none)

include notBlank noSymbol

theorem boundaryFrom_of_take_nil
    (noLiteral : Literal.take (unit :: rest) = []) :
    boundaryFrom position (unit :: rest) = .stopped (.unexpectedUnit unit position) := by
  rw [boundaryFrom.eq_def]
  dsimp only
  rw [if_neg notBlank, noSymbol]
  exact dif_pos noLiteral

variable (nonempty : Literal.take (unit :: rest) ≠ [])

include nonempty

theorem boundaryFrom_of_point
    (point : (Literal.drop (unit :: rest)).head? = some 0x2E) :
    boundaryFrom position (unit :: rest)
      = .stopped
          (.unexpectedUnit 0x2E (position + (Literal.take (unit :: rest)).length)) := by
  rw [boundaryFrom.eq_def]
  dsimp only
  rw [if_neg notBlank, noSymbol]
  exact (dif_neg nonempty).trans (if_pos point)

theorem boundaryFrom_of_literal
    (noPoint : (Literal.drop (unit :: rest)).head? ≠ some 0x2E) :
    boundaryFrom position (unit :: rest)
      = (boundaryFrom (position + (Literal.take (unit :: rest)).length)
            (Literal.drop (unit :: rest))).cons
          ⟨.number (Literal.value (Literal.take (unit :: rest))) (Literal.take (unit :: rest)),
            position⟩ := by
  rw [boundaryFrom.eq_def]
  dsimp only
  rw [if_neg notBlank, noSymbol]
  exact (dif_neg nonempty).trans (if_neg noPoint)

end

/-- Where a literal would end, the boundary reader takes a lexeme off the front. -/
theorem boundaryFrom_append
    (written : lexeme.Written run)
    (ends : ∀ unit ∈ after.head?, unit.endsLiteral) :
    boundaryFrom position (run ++ after)
      = (boundaryFrom (position + run.length) after).cons ⟨lexeme, position⟩ := by
  cases written with
  | symbol member => exact boundaryFrom_symbol member
  | number literal =>
    have nonempty := literal.ne_nil
    rcases literal.split ends with ⟨taken, dropped⟩
    cases run with
    | nil => exact (nonempty rfl).elim
    | cons unit rest =>
      have notBlank := literal.no_blank unit List.mem_cons_self
      have noPoint : after.head? ≠ some 0x2E := by
        intro point
        cases ends 0x2E point
      rw [List.cons_append] at taken dropped ⊢
      rw [boundaryFrom_of_literal (by simp [notBlank])
          (Lexeme.ofSymbol?_eq_none_of_mem literal.head) (by rwa [taken]) (by rwa [dropped]),
        taken, dropped]

end Lexer

/-! ## Agreement -/

namespace Scan

/-- The first scan agrees with the second up to where it stops, which is no later. -/
structure Within (first second : Scan) : Prop where
  tokens : first.tokens <+: second.tokens
  whole : first.failure = none → second = first
  stops :
    ∀ problem position,
      second.failure = some problem → problem.position? = some position →
        ∃ earlier before,
          first.failure = some earlier ∧ earlier.position? = some before ∧ before ≤ position

theorem within_refl
    (scan : Scan) :
    scan.Within scan := by
  constructor
  · exact List.prefix_rfl
  · intro _
    rfl
  · intro problem position failed blamed
    exact ⟨problem, position, failed, blamed, Nat.le_refl position⟩

theorem Within.cons
    {first second : Scan}
    (within : first.Within second)
    (token : Token) :
    (first.cons token).Within (second.cons token) := by
  constructor
  · exact List.cons_prefix_cons.mpr ⟨rfl, within.tokens⟩
  · intro readToEnd
    rw [within.whole readToEnd]
  · exact within.stops

/-- A scan that stops at once agrees with all that stop no earlier. -/
theorem within_of_stopped
    {problem : Failure}
    {scan : Scan}
    {start stop : Nat}
    (blamed : problem.position? = some start)
    (inside : scan.Inside start stop) :
    (stopped problem).Within scan := by
  constructor
  · exact List.nil_prefix
  · intro readToEnd
    cases readToEnd
  · intro later position failed laterBlamed
    rcases inside.failure later failed with ⟨same, sameBlamed, after, _⟩
    rw [laterBlamed] at sameBlamed
    cases sameBlamed
    exact ⟨problem, start, rfl, blamed, after⟩

end Scan

theorem Lexer.within_boundaryFrom
    (position : Nat)
    (text : Text) :
    (ofRuns (runs position text)).Within (boundaryFrom position text) := by
  fun_induction runs position text with
  | case1 position =>
    rw [boundaryFrom_nil]
    exact Scan.within_refl .done
  | case2 position unit rest blank inner =>
    rw [boundaryFrom_blank blank]
    exact inner
  | case3 position unit rest notBlank tail inner =>
    have split : unit :: rest
        = (unit :: tail) ++ rest.dropWhile fun unit => !unit.isBlank := by
      rw [List.cons_append, List.takeWhile_append_dropWhile]
    unfold ofRuns
    split
    · rename_i lexeme read
      have ends : ∀ unit ∈ (rest.dropWhile fun unit => !unit.isBlank).head?, unit.endsLiteral :=
        fun unit next => CodeUnit.endsLiteral_of_isBlank (dropWhile_begins_blank rest unit next)
      rw [split, boundaryFrom_append (Lexeme.lexemeOfRun?_eq_some_iff.mp read) ends]
      exact inner.cons _
    · exact Scan.within_of_stopped rfl (inside_boundaryFrom position (unit :: rest))

/-- What the whitespace reader can read to its end, both readers read alike. -/
theorem LexerMode.within_scan
    (text : Text) :
    (whitespace.scan text).Within (boundary.scan text) :=
  Lexer.within_boundaryFrom 0 text

/-! ## Writing lexemes down again -/

theorem Lexer.written_boundaryFrom
    (position : Nat)
    (text : Text) :
    ∀ token ∈ (boundaryFrom position text).tokens, token.lexeme.Written token.toText := by
  fun_induction boundaryFrom position text with
  | case1 position => simp [Scan.done]
  | case2 position unit rest blank inner => exact inner
  | case3 position unit rest notBlank lexeme symbol inner =>
    intro token member
    rcases List.mem_cons.mp member with rfl | later
    · have known := Lexeme.ofSymbol?_eq_some_iff.mp symbol
      rw [Token.toText, (Lexeme.toText_of_mem_symbols known).1]
      exact .symbol known
    · exact inner token later
  | case4 position unit rest notBlank noSymbol literal noLiteral => simp [Scan.stopped]
  | case5 position unit rest notBlank noSymbol literal after nonempty point =>
    simp [Scan.stopped]
  | case6 position unit rest notBlank noSymbol literal after nonempty noPoint inner =>
    intro token member
    rcases List.mem_cons.mp member with rfl | later
    · exact .number (Literal.written_take nonempty)
    · exact inner token later

/-- Every token of either reader is written as a lexeme is. -/
theorem LexerMode.written_scan
    (mode : LexerMode)
    (text : Text) :
    ∀ token ∈ (mode.scan text).tokens, token.lexeme.Written token.toText := by
  have written := Lexer.written_boundaryFrom 0 text
  cases mode with
  | boundary => exact written
  | whitespace =>
    intro token member
    exact written token ((within_scan text).tokens.subset member)

namespace Lexeme

/-- Lexemes one after the other from a position on, a single blank between two neighbours. -/
def spaced
    (position : Nat) :
    List Lexeme → List Token
  | [] => []
  | lexeme :: rest => ⟨lexeme, position⟩ :: spaced (position + lexeme.toText.length + 1) rest

theorem map_lexeme_spaced
    (position : Nat)
    (lexemes : List Lexeme) :
    (spaced position lexemes).map Token.lexeme = lexemes := by
  induction lexemes generalizing position with
  | nil => rfl
  | cons lexeme rest inner =>
    rw [spaced, List.map_cons, inner]

end Lexeme

/-- Lexemes that are written with single blanks between them are read back. -/
theorem Lexer.ofRuns_join
    {lexemes : List Lexeme}
    (written : ∀ lexeme ∈ lexemes, lexeme.Written lexeme.toText)
    (position : Nat) :
    ofRuns (runs position (Text.join [0x20] (lexemes.map Lexeme.toText)))
      = ⟨Lexeme.spaced position lexemes, none⟩ := by
  induction lexemes generalizing position with
  | nil =>
    rw [List.map_nil, Text.join, runs_nil]
    rfl
  | cons lexeme rest inner =>
    have first := written lexeme List.mem_cons_self
    have read := Lexeme.lexemeOfRun?_eq_some_iff.mpr first
    have others := inner fun other member => written other (List.mem_cons_of_mem _ member)
    cases rest with
    | nil =>
      have alone : runs position (lexeme.toText ++ []) = _ :=
        runs_append first.ne_nil first.no_blank (by simp)
      rw [List.append_nil] at alone
      rw [List.map_singleton, Text.join, alone, ofRuns, read, runs_nil]
      rfl
    | cons second rest =>
      rw [List.map_cons, List.map_cons, Text.join, List.append_assoc,
        runs_append first.ne_nil first.no_blank (by rintro unit ⟨⟩; rfl), ofRuns, read,
        List.singleton_append, runs_blank rfl, ← List.map_cons, others]
      rfl

end InfixCalc
