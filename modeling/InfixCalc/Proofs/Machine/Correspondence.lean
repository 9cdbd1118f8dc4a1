import InfixCalc.Proofs.Machine.Diagnosis
import InfixCalc.Proofs.Machine.Relocation

/-!
# Runs on the same lexemes

A run looks at lexemes and hands positions on.  Two lists of tokens with the
same lexemes are both moved from the list in which every token stands at its own
index, and a failure blames a token that is there; so their runs come to the
same value, or blame the tokens at the same index for the same thing.
-/

namespace InfixCalc

namespace Token

/-- The lexemes, each at its own index. -/
def numbered (lexemes : List Lexeme) : List Token :=
  lexemes.mapIdx fun index lexeme => ⟨lexeme, index⟩

/-- The position of the token at an index. -/
def positionAt
    (tokens : List Token)
    (index : Nat) :
    Nat :=
  (tokens[index]?.map position).getD 0

theorem relocate_numbered (tokens : List Token) :
    (numbered (tokens.map lexeme)).map (relocate (positionAt tokens)) = tokens := by
  apply List.ext_getElem?
  intro index
  rw [List.getElem?_map, numbered, List.getElem?_mapIdx, List.getElem?_map]
  cases found : tokens[index]? with
  | none => rfl
  | some token => simp [relocate, positionAt, found]

theorem position_lt_of_mem_numbered
    {lexemes : List Lexeme}
    {token : Token}
    (member : token ∈ numbered lexemes) :
    token.position < lexemes.length := by
  rcases List.mem_mapIdx.mp member with ⟨index, bounded, rfl⟩
  exact bounded

end Token

/-- A failure that is justified blames the position of one of the tokens, if any. -/
theorem Machine.Justified.blames_token
    {tokens : List Token}
    {problem : Failure}
    {position : Nat}
    (justified : Justified tokens problem)
    (blamed : problem.position? = some position) :
    ∃ token ∈ tokens, token.position = position := by
  cases problem with
  | unrecognizedToken run other => exact justified.elim
  | unexpectedUnit unit other => exact justified.elim
  | notEnoughOperands symbol other => exact justified.elim
  | leftover count => cases blamed
  | emptyExpression => cases blamed
  | unmatchedClose other =>
    cases blamed
    rcases justified with ⟨before, after, rfl, _⟩
    exact ⟨_, List.mem_append_cons_self, rfl⟩
  | unclosedOpen other =>
    cases blamed
    rcases justified with ⟨before, after, _, rfl, _⟩
    exact ⟨_, List.mem_append_cons_self, rfl⟩
  | emptyGroup other =>
    cases blamed
    rcases justified with ⟨before, closing, after, rfl⟩
    exact ⟨_, List.mem_append_cons_self, rfl⟩
  | missingLeft symbol other =>
    cases blamed
    rcases justified with ⟨before, after, rfl, _⟩
    exact ⟨_, List.mem_append_cons_self, rfl⟩
  | missingRight symbol other =>
    cases blamed
    rcases justified with ⟨before, after, rfl, _⟩
    exact ⟨_, List.mem_append_cons_self, rfl⟩
  | divisionByZero other =>
    cases blamed
    rcases justified with ⟨before, after, rfl⟩
    exact ⟨_, List.mem_append_cons_self, rfl⟩

/-- The same value, or failures of the same kind that blame the tokens at the same index, if any. -/
inductive Corresponds
    (first second : List Token) :
    Except Failure Decimal → Except Failure Decimal → Prop where
  | value
      {value : Decimal} :
      Corresponds first second (.ok value) (.ok value)
  | unplaced
      {problem other : Failure} :
      problem.code = other.code →
      problem.position? = none →
      other.position? = none →
      Corresponds first second (.error problem) (.error other)
  | placed
      {problem other : Failure}
      {index : Nat}
      {firstToken secondToken : Token} :
      problem.code = other.code →
      first[index]? = some firstToken →
      second[index]? = some secondToken →
      problem.position? = some firstToken.position →
      other.position? = some secondToken.position →
      Corresponds first second (.error problem) (.error other)

namespace Machine

variable
    {first second : List Token}
    (same : first.map Token.lexeme = second.map Token.lexeme)

include same

theorem corresponds_of_justified
    {problem : Failure}
    (justified : Justified (Token.numbered (first.map Token.lexeme)) problem) :
    Corresponds first second
      (.error (problem.relocate (Token.positionAt first)))
      (.error (problem.relocate (Token.positionAt second))) := by
  have sameCode : (problem.relocate (Token.positionAt first)).code
      = (problem.relocate (Token.positionAt second)).code := by
    rw [Failure.code_relocate, Failure.code_relocate]
  cases blamed : problem.position? with
  | none =>
    apply Corresponds.unplaced sameCode
    · rw [Failure.position?_relocate, blamed]
      rfl
    · rw [Failure.position?_relocate, blamed]
      rfl
  | some index =>
    rcases justified.blames_token blamed with ⟨token, member, rfl⟩
    have bounded := Token.position_lt_of_mem_numbered member
    have sameLength := congrArg List.length same
    rw [List.length_map] at bounded
    rw [List.length_map, List.length_map] at sameLength
    have firstFound := List.getElem?_eq_getElem bounded
    have secondFound := List.getElem?_eq_getElem (sameLength ▸ bounded)
    apply Corresponds.placed sameCode firstFound secondFound
    · rw [Failure.position?_relocate, blamed, Option.map_some, Token.positionAt, firstFound]
      rfl
    · rw [Failure.position?_relocate, blamed, Option.map_some, Token.positionAt, secondFound]
      rfl

/-- Runs on the same lexemes correspond, and their steps differ in positions only. -/
theorem corresponds_run
    (context : Context) :
    Corresponds first second (run context first).outcome (run context second).outcome ∧
      (run context first).written.map TraceStep.unplaced
        = (run context second).written.map TraceStep.unplaced := by
  have firstRun : run context
      ((Token.numbered (first.map Token.lexeme)).map (Token.relocate (Token.positionAt first)))
        = _ :=
    relocate_run
  have secondRun : run context
      ((Token.numbered (second.map Token.lexeme)).map (Token.relocate (Token.positionAt second)))
        = _ :=
    relocate_run
  have justified := run_justified context (Token.numbered (first.map Token.lexeme))
  rw [Token.relocate_numbered] at firstRun
  rw [Token.relocate_numbered, ← same] at secondRun
  rw [firstRun, secondRun]
  generalize run context (Token.numbered (first.map Token.lexeme)) = reaction at justified ⊢
  constructor
  · rcases reaction with ⟨machine, steps, problem | value⟩
    · exact corresponds_of_justified same justified
    · exact .value
  · simp only [Reaction.written_relocate, List.map_map]
    congr 1
    funext step
    exact (step.unplaced_relocate _).trans (step.unplaced_relocate _).symm

end Machine

end InfixCalc
