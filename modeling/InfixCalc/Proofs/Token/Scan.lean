import InfixCalc.Token.Lexer

/-!
# What both readers guarantee

Whichever reader a text goes through, its tokens come in the order of their
positions, a number token has the exact value of what was written, and what
stops the reading is a lexical failure.  `Scan.Faithful` puts this together; it
is kept by every token that is put in front of a scan.

`Scan.Inside` says where tokens and failures can be: nowhere but in the text.
-/

namespace InfixCalc

namespace Scan

/-- The tokens stand in order from a position on and mean what was written there. -/
structure Faithful
    (start : Nat)
    (scan : Scan) :
    Prop where
  from_start : ∀ token ∈ scan.tokens, start ≤ token.position
  increasing : (scan.tokens.map Token.position).Pairwise (· < ·)
  exact_values :
    ∀ token ∈ scan.tokens, ∀ value written,
      token.lexeme = .number value written → value = Literal.value written
  lexical : ∀ problem, scan.failure = some problem → problem.code = .lexical

theorem faithful_done (start : Nat) : done.Faithful start :=
  ⟨by simp [done], by simp [done], by simp [done], by simp [done]⟩

theorem faithful_stopped
    {start : Nat}
    {problem : Failure}
    (lexical : problem.code = .lexical) :
    (stopped problem).Faithful start :=
  ⟨by simp [stopped], by simp [stopped], by simp [stopped], by simpa [stopped] using lexical⟩

theorem Faithful.weaken
    {start earlier : Nat}
    {scan : Scan}
    (faithful : scan.Faithful start)
    (before : earlier ≤ start) :
    scan.Faithful earlier :=
  { faithful with
    from_start := fun token member => Nat.le_trans before (faithful.from_start token member) }

theorem Faithful.cons
    {start : Nat}
    {lexeme : Lexeme}
    {scan : Scan}
    (faithful : scan.Faithful (start + 1))
    (exactValue : ∀ value written, lexeme = .number value written → value = Literal.value written) :
    (scan.cons ⟨lexeme, start⟩).Faithful start where
  from_start := by
    intro token member
    rcases List.mem_cons.mp member with rfl | later
    · exact Nat.le_refl start
    · exact Nat.le_of_succ_le (faithful.from_start token later)
  increasing := by
    simp only [Scan.cons, List.map_cons, List.pairwise_cons]
    refine ⟨?_, faithful.increasing⟩
    intro position member
    rcases List.mem_map.mp member with ⟨token, later, rfl⟩
    exact faithful.from_start token later
  exact_values := by
    intro token member
    rcases List.mem_cons.mp member with rfl | later
    · exact exactValue
    · exact faithful.exact_values token later
  lexical := faithful.lexical

/-- Tokens and failure have their positions from the first bound on and before the second. -/
structure Inside
    (start stop : Nat)
    (scan : Scan) :
    Prop where
  tokens : ∀ token ∈ scan.tokens, start ≤ token.position ∧ token.position < stop
  failure :
    ∀ problem, scan.failure = some problem →
      ∃ position, problem.position? = some position ∧ start ≤ position ∧ position < stop

theorem inside_done (start stop : Nat) : done.Inside start stop :=
  ⟨by simp [done], by simp [done]⟩

theorem inside_stopped
    {start stop position : Nat}
    {problem : Failure}
    (blamed : problem.position? = some position)
    (after : start ≤ position)
    (before : position < stop) :
    (stopped problem).Inside start stop := by
  constructor
  · simp [stopped]
  · intro other same
    cases same
    exact ⟨position, blamed, after, before⟩

theorem Inside.weaken
    {start stop earlier : Nat}
    {scan : Scan}
    (inside : scan.Inside start stop)
    (before : earlier ≤ start) :
    scan.Inside earlier stop := by
  constructor
  · intro token member
    have within := inside.tokens token member
    omega
  · intro problem failed
    rcases inside.failure problem failed with ⟨position, blamed, after, stops⟩
    exact ⟨position, blamed, by omega, stops⟩

theorem Inside.cons
    {start stop : Nat}
    {lexeme : Lexeme}
    {scan : Scan}
    (inside : scan.Inside (start + 1) stop)
    (before : start < stop) :
    (scan.cons ⟨lexeme, start⟩).Inside start stop := by
  have later := inside.weaken (Nat.le_succ start)
  constructor
  · intro token member
    rcases List.mem_cons.mp member with rfl | other
    · exact ⟨Nat.le_refl start, before⟩
    · exact later.tokens token other
  · exact later.failure

end Scan

/-- A single unit that is a symbol is no number. -/
theorem Lexeme.ofSymbol?_ne_number
    {unit : CodeUnit}
    {lexeme : Lexeme}
    (symbol : ofSymbol? unit = some lexeme) :
    ∀ value written, lexeme ≠ .number value written := by
  rintro value written rfl
  unfold ofSymbol? at symbol
  split at symbol
  · cases symbol
  · split at symbol
    · cases symbol
    · rcases Option.map_eq_some_iff.mp symbol with ⟨_, _, impossible⟩
      cases impossible

namespace Lexer

theorem lexemeOfRun?_exact
    {run : Text}
    {lexeme : Lexeme}
    (read : lexemeOfRun? run = some lexeme) :
    ∀ value written, lexeme = .number value written → value = Literal.value written := by
  rintro value written rfl
  unfold lexemeOfRun? at read
  split at read
  · cases read
    rfl
  · split at read
    · exact (Lexeme.ofSymbol?_ne_number read value written rfl).elim
    · cases read

theorem faithful_ofRuns
    (position : Nat)
    (text : Text) :
    (ofRuns (runs position text)).Faithful position := by
  fun_induction runs position text with
  | case1 position => exact Scan.faithful_done position
  | case2 position unit rest blank inner => exact inner.weaken (Nat.le_succ position)
  | case3 position unit rest notBlank tail inner =>
    unfold ofRuns
    split
    · rename_i lexeme read
      exact (inner.weaken (by omega)).cons (lexemeOfRun?_exact read)
    · exact Scan.faithful_stopped rfl

theorem faithful_boundaryFrom
    (position : Nat)
    (text : Text) :
    (boundaryFrom position text).Faithful position := by
  fun_induction boundaryFrom position text with
  | case1 position => exact Scan.faithful_done position
  | case2 position unit rest blank inner => exact inner.weaken (Nat.le_succ position)
  | case3 position unit rest notBlank lexeme symbol inner =>
    refine inner.cons ?_
    intro value written equal
    exact (Lexeme.ofSymbol?_ne_number symbol value written equal).elim
  | case4 position unit rest notBlank noSymbol literal noLiteral =>
    exact Scan.faithful_stopped rfl
  | case5 position unit rest notBlank noSymbol literal after nonempty point =>
    exact Scan.faithful_stopped rfl
  | case6 position unit rest notBlank noSymbol literal after nonempty noPoint inner =>
    have longer : 0 < literal.length := List.length_pos_iff.mpr nonempty
    refine (inner.weaken (by omega)).cons ?_
    intro value written equal
    cases equal
    rfl

theorem inside_ofRuns
    (position : Nat)
    (text : Text) :
    (ofRuns (runs position text)).Inside position (position + text.length) := by
  fun_induction runs position text with
  | case1 position => exact Scan.inside_done _ _
  | case2 position unit rest blank inner =>
    rw [Nat.add_right_comm] at inner
    exact inner.weaken (Nat.le_succ position)
  | case3 position unit rest notBlank tail inner =>
    have whole : tail.length + (rest.dropWhile fun unit => !unit.isBlank).length = rest.length := by
      rw [← List.length_append, List.takeWhile_append_dropWhile]
    unfold ofRuns
    split
    · rename_i lexeme read
      have later := inner.weaken (show position + 1 ≤ position + tail.length + 1 by omega)
      have same : position + tail.length + 1 + (rest.dropWhile fun unit => !unit.isBlank).length
          = position + (unit :: rest).length := by
        rw [List.length_cons]
        omega
      rw [same] at later
      exact later.cons (by simp)
    · exact Scan.inside_stopped rfl (Nat.le_refl position) (by simp)

theorem inside_boundaryFrom
    (position : Nat)
    (text : Text) :
    (boundaryFrom position text).Inside position (position + text.length) := by
  fun_induction boundaryFrom position text with
  | case1 position => exact Scan.inside_done _ _
  | case2 position unit rest blank inner =>
    rw [Nat.add_right_comm] at inner
    exact inner.weaken (Nat.le_succ position)
  | case3 position unit rest notBlank lexeme symbol inner =>
    rw [Nat.add_right_comm] at inner
    exact inner.cons (Nat.lt_succ_of_le (Nat.le_add_right position rest.length))
  | case4 position unit rest notBlank noSymbol literal noLiteral =>
    exact Scan.inside_stopped rfl (Nat.le_refl position) (by simp)
  | case5 position unit rest notBlank noSymbol literal after nonempty point =>
    have whole : literal.length + after.length = (unit :: rest).length := by
      rw [← List.length_append, Literal.take_append_drop]
    have more : after ≠ [] := by
      rintro empty
      rw [empty] at point
      cases point
    have longer : 0 < after.length := List.length_pos_iff.mpr more
    exact Scan.inside_stopped rfl (Nat.le_add_right _ _) (by omega)
  | case6 position unit rest notBlank noSymbol literal after nonempty noPoint inner =>
    have whole : literal.length + after.length = (unit :: rest).length := by
      rw [← List.length_append, Literal.take_append_drop]
    have longer : 0 < literal.length := List.length_pos_iff.mpr nonempty
    rw [Nat.add_assoc, whole] at inner
    exact (inner.weaken (by omega)).cons (by omega)

end Lexer

theorem LexerMode.faithful_scan
    (mode : LexerMode)
    (text : Text) :
    (mode.scan text).Faithful 0 := by
  cases mode with
  | whitespace => exact Lexer.faithful_ofRuns 0 text
  | boundary => exact Lexer.faithful_boundaryFrom 0 text

theorem LexerMode.inside_scan
    (mode : LexerMode)
    (text : Text) :
    (mode.scan text).Inside 0 text.length := by
  rw [← Nat.zero_add text.length]
  cases mode with
  | whitespace => exact Lexer.inside_ofRuns 0 text
  | boundary => exact Lexer.inside_boundaryFrom 0 text

end InfixCalc
