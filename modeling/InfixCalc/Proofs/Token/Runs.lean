import InfixCalc.Proofs.Token.Layout
import InfixCalc.Proofs.Token.Seams
import Mathlib.Data.List.Basic

/-!
# Maximal runs

What the whitespace reader accepts can be said without it: every maximal run between
blanks is a lexeme.  The runs that it looks at are the maximal runs of the text, each at
the place where it begins, in the order of their places.  So if it stops, it has come to
the first maximal run that is no lexeme, and has laid out its tokens up to there.
-/

namespace InfixCalc

/-- A run of units that are no blanks, with blanks or the ends of the text on both sides. -/
structure MaximalRun (before run after : Text) : Prop where
  nonempty : run ≠ []
  no_blank : ∀ unit ∈ run, unit.isBlank = false
  begins : ∀ unit ∈ before.getLast?, unit.isBlank
  ends : ∀ unit ∈ after.head?, unit.isBlank

namespace MaximalRun

variable {before run after : Text}

theorem cons_blank
    (maximal : MaximalRun before run after)
    {unit : CodeUnit}
    (blank : unit.isBlank) :
    MaximalRun (unit :: before) run after := by
  refine { maximal with begins := ?_ }
  intro last member
  rw [List.getLast?_cons] at member
  cases found : before.getLast? with
  | none =>
    rw [found] at member
    cases member
    exact blank
  | some other =>
    rw [found] at member
    cases member
    exact maximal.begins _ found

/-- In front of a run that does not stand at the beginning there is a blank. -/
theorem append_left
    (maximal : MaximalRun before run after)
    (blankFirst : ∀ unit ∈ (before ++ (run ++ after)).head?, unit.isBlank)
    (earlier : Text) :
    MaximalRun (earlier ++ before) run after := by
  refine { maximal with begins := ?_ }
  have some : before ≠ [] := by
    rintro rfl
    rcases run with _ | ⟨head, others⟩
    · exact maximal.nonempty rfl
    · have blank := blankFirst head rfl
      rw [maximal.no_blank head List.mem_cons_self] at blank
      cases blank
  rw [List.getLast?_append_of_ne_nil _ some]
  exact maximal.begins

end MaximalRun

namespace Lexer

theorem maximalRun_of_mem_runs
    {position place : Nat}
    {text run : Text}
    (member : (place, run) ∈ runs position text) :
    ∃ before after,
      text = before ++ (run ++ after) ∧
        place = position + before.length ∧ MaximalRun before run after := by
  fun_induction runs position text with
  | case1 position => cases member
  | case2 position unit rest blank inner =>
    rcases inner member with ⟨before, after, rfl, rfl, maximal⟩
    refine ⟨unit :: before, after, rfl, ?_, maximal.cons_blank blank⟩
    rw [List.length_cons]
    omega
  | case3 position unit rest notBlank tail inner =>
    have split := List.takeWhile_append_dropWhile (p := fun unit : CodeUnit => !unit.isBlank)
      (l := rest)
    have blankFirst := dropWhile_begins_blank rest
    rcases List.mem_cons.mp member with first | later
    · cases first
      refine ⟨[], _, ?_, rfl, by simp, ?_, by simp, blankFirst⟩
      · rw [List.nil_append, List.cons_append, split]
      · refine List.forall_mem_cons.mpr ⟨by simpa using notBlank, ?_⟩
        intro unit inTail
        simpa using List.all_eq_true.mp List.all_takeWhile unit inTail
    · rcases inner later with ⟨before, after, same, rfl, maximal⟩
      rw [same] at split blankFirst
      refine ⟨unit :: tail ++ before, after, ?_, ?_, maximal.append_left blankFirst _⟩
      · rw [List.append_assoc, List.cons_append, split]
      · rw [List.length_append, List.length_cons]
        omega

theorem mem_runs_of_maximalRun
    {before run after : Text}
    (maximal : MaximalRun before run after)
    (position : Nat) :
    (position + before.length, run) ∈ runs position (before ++ (run ++ after)) := by
  have first : (position + before.length, run)
      ∈ runs (position + before.length) (run ++ after) := by
    rw [runs_append maximal.nonempty maximal.no_blank maximal.ends]
    exact List.mem_cons_self
  rcases List.eq_nil_or_concat' before with rfl | ⟨earlier, last, rfl⟩
  · exact first
  · have blank : last.isBlank := maximal.begins last (by simp)
    rw [List.append_assoc, runs_append_of_blank (by rintro unit ⟨⟩; exact blank)]
    apply List.mem_append_right
    rw [List.singleton_append, runs_blank blank]
    rwa [List.length_append, ← Nat.add_assoc] at first ⊢

/-- The runs of a text are its maximal runs, each at the place where it begins. -/
theorem mem_runs_iff
    {place : Nat}
    {text run : Text} :
    (place, run) ∈ runs 0 text ↔
      ∃ before after,
        text = before ++ (run ++ after) ∧ place = before.length ∧ MaximalRun before run after := by
  constructor
  · intro member
    simpa using maximalRun_of_mem_runs member
  · rintro ⟨before, after, rfl, rfl, maximal⟩
    simpa using mem_runs_of_maximalRun maximal 0

theorem runs_increasing
    (position : Nat)
    (text : Text) :
    (runs position text).Pairwise fun earlier later => earlier.1 < later.1 := by
  fun_induction runs position text with
  | case1 position => exact .nil
  | case2 position unit rest blank inner => exact inner
  | case3 position unit rest notBlank tail inner =>
    refine .cons ?_ inner
    rintro ⟨place, run⟩ member
    rcases maximalRun_of_mem_runs member with ⟨before, after, _, rfl, _⟩
    show position < position + tail.length + 1 + before.length
    omega

/-- Runs are read up to the first one that is no lexeme. -/
theorem ofRuns_cases (entries : List (Nat × Text)) :
    ((ofRuns entries).failure = none ∧
        ∀ entry ∈ entries, ∃ lexeme : Lexeme, lexeme.Written entry.2) ∨
      ∃ front position run back,
        entries = front ++ (position, run) :: back ∧
          (∀ entry ∈ front, ∃ lexeme : Lexeme, lexeme.Written entry.2) ∧
          (∀ lexeme : Lexeme, ¬ lexeme.Written run) ∧
          (ofRuns entries).failure = some (.unrecognizedToken run position) := by
  induction entries with
  | nil => exact .inl ⟨rfl, by simp⟩
  | cons entry rest inner =>
    rcases entry with ⟨position, run⟩
    rw [ofRuns]
    cases read : lexemeOfRun? run with
    | none =>
      refine .inr ⟨[], position, run, rest, rfl, by simp, ?_, rfl⟩
      intro lexeme written
      rw [Lexeme.lexemeOfRun?_eq_some_iff.mpr written] at read
      cases read
    | some lexeme =>
      have written : ∃ lexeme : Lexeme, lexeme.Written run :=
        ⟨lexeme, Lexeme.lexemeOfRun?_eq_some_iff.mp read⟩
      rcases inner with ⟨readToEnd, each⟩ | ⟨front, place, other, back, rfl, before, none, failed⟩
      · exact .inl ⟨readToEnd, List.forall_mem_cons.mpr ⟨written, each⟩⟩
      · exact .inr ⟨(position, run) :: front, place, other, back, rfl,
          List.forall_mem_cons.mpr ⟨written, before⟩, none, failed⟩

/-- The whitespace reader lays its tokens out up to the place where it stops, if it does. -/
theorem layout_ofRuns
    (position : Nat)
    (text : Text) :
    ∃ stop rest,
      Layout position text (ofRuns (runs position text)).tokens stop rest ∧
        ((ofRuns (runs position text)).failure = none → rest = []) ∧
        ∀ problem, (ofRuns (runs position text)).failure = some problem →
          problem.position? = some stop := by
  fun_induction runs position text with
  | case1 position => exact ⟨position, [], .done, fun _ => rfl, by rintro problem ⟨⟩⟩
  | case2 position unit rest blank inner =>
    rcases inner with ⟨stop, unread, layout, ending⟩
    exact ⟨stop, unread, .blank blank layout, ending⟩
  | case3 position unit rest notBlank tail inner =>
    rw [ofRuns]
    cases read : lexemeOfRun? (unit :: tail) with
    | none =>
      refine ⟨position, unit :: rest, .done, by rintro ⟨⟩, ?_⟩
      rintro problem ⟨⟩
      rfl
    | some lexeme =>
      rcases inner with ⟨stop, unread, layout, ending⟩
      have written := Lexeme.lexemeOfRun?_eq_some_iff.mp read
      have split : unit :: rest
          = (unit :: tail) ++ rest.dropWhile fun unit => !unit.isBlank := by
        rw [List.cons_append, List.takeWhile_append_dropWhile]
      refine ⟨stop, unread, ?_, ending⟩
      rw [split]
      exact .lexeme written layout

/-- What the whitespace reader accepts, and where else it stops. -/
theorem whitespace_cases (text : Text) :
    ((whitespace text).failure = none ∧
        Layout 0 text (whitespace text).tokens text.length [] ∧
        ∀ before run after,
          text = before ++ (run ++ after) → MaximalRun before run after →
            ∃ lexeme : Lexeme, lexeme.Written run) ∨
      ∃ before run after,
        text = before ++ (run ++ after) ∧
          MaximalRun before run after ∧
          (∀ lexeme : Lexeme, ¬ lexeme.Written run) ∧
          (∀ earlier other later,
            text = earlier ++ (other ++ later) → MaximalRun earlier other later →
              earlier.length < before.length → ∃ lexeme : Lexeme, lexeme.Written other) ∧
          Layout 0 text (whitespace text).tokens before.length (run ++ after) ∧
          (whitespace text).failure = some (.unrecognizedToken run before.length) := by
  rcases layout_ofRuns 0 text with ⟨stop, rest, layout, readToEnd, stopped⟩
  rcases layout.exists_covered with ⟨covered, same, place⟩
  rw [Nat.zero_add] at place
  rcases ofRuns_cases (runs 0 text) with
    ⟨none, each⟩ | ⟨front, position, run, back, entries, before, none, failed⟩
  · left
    rw [readToEnd none, List.append_nil] at same
    rw [readToEnd none, place, ← same] at layout
    refine ⟨none, layout, ?_⟩
    rintro before run after rfl maximal
    exact each _ (mem_runs_iff.mpr ⟨before, after, rfl, rfl, maximal⟩)
  · right
    have member : (position, run) ∈ runs 0 text := by
      rw [entries]
      exact List.mem_append_cons_self
    rcases mem_runs_iff.mp member with ⟨earlier, after, split, rfl, maximal⟩
    have sameStop : stop = earlier.length := (Option.some.inj (stopped _ failed)).symm
    have sameRest : rest = run ++ after := by
      rw [split] at same
      exact (List.append_inj same (by omega)).2.symm
    rw [sameStop, sameRest] at layout
    refine ⟨earlier, run, after, split, maximal, none, ?_, layout, failed⟩
    intro first other later otherSplit otherMaximal precedes
    have otherMember : (first.length, other) ∈ front ++ (earlier.length, run) :: back := by
      rw [← entries]
      exact mem_runs_iff.mpr ⟨first, later, otherSplit, rfl, otherMaximal⟩
    have increasing := runs_increasing 0 text
    rw [entries, List.pairwise_append, List.pairwise_cons] at increasing
    rcases List.mem_append.mp otherMember with inFront | behind
    · exact before _ inFront
    · rcases List.mem_cons.mp behind with same | inBack
      · have := congrArg Prod.fst same
        dsimp only at this
        omega
      · have := increasing.2.1.1 _ inBack
        dsimp only at this
        omega

end Lexer

end InfixCalc
