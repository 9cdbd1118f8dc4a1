import InfixCalc.Proofs.Command.Streams

/-!
# What the exit code of a test says

A test of a file of fixtures ends with success or with failure.  It ends with success
just if each fixture that was asked for says what is so, those fixtures apart that want
the code of a failure as a value: of these it does not say that they fail.
-/

namespace InfixCalc.Command

variable
    {complaint : Json.Complaint}
    {rest : List Text}
    {name content : Text}
    {surroundings : Surroundings}
    {fixtures : List Fixture}

/-- What a test of a file leaves behind: the reports on the fixtures that are selected. -/
theorem play_testCommand
    {arguments : Arguments}
    (given : arguments.positional.head? = some name)
    (named : name ≠ [])
    (found : surroundings.file name = .ok content)
    (loaded : Fixture.load? complaint content = .ok fixtures) :
    let selected := Fixture.select (arguments.flags.get? .only) fixtures
    (testCommand complaint arguments).play surroundings
      = ⟨selected.flatMap Fixture.report, [],
          if selected.all Fixture.passes then .success else .failure, 0, [name]⟩ := by
  have read : (surroundings.file name).bind (Fixture.load? complaint) = .ok fixtures := by
    rw [found]
    exact loaded
  rw [testCommand, given]
  dsimp only
  rw [if_neg (by simpa using named), Script.play, read]
  dsimp only
  rw [testFixtures, Script.play_outs]
  simp only [Script.play, List.append_nil]

/--
A test of a file that can be loaded succeeds just if its flags are in order and each
selected fixture says what is so or is mistaken.
-/
theorem test_succeeds_iff
    (given : (Arguments.parse rest).positional.head? = some name)
    (named : name ≠ [])
    (found : surroundings.file name = .ok content)
    (loaded : Fixture.load? complaint content = .ok fixtures) :
    let parsed := Arguments.parse rest
    ((run complaint (text "test" :: rest)).play surroundings).code.number = 0 ↔
      (parsed.unknown = [] ∧ parsed.flags.Usable) ∧
        ∀ fixture ∈ fixtures,
          (∀ part ∈ parsed.flags.get? .only, part <:+: fixture.name) →
            fixture.Satisfied ∨ fixture.Mistaken := by
  intro parsed
  rw [ExitCode.number_eq_zero]
  by_cases inOrder : parsed.unknown = [] ∧ parsed.flags.Usable
  · rcases run_dispatched (List.cons_ne_nil _ _) inOrder.1 inOrder.2 with ⟨options, dispatched⟩
    have tested : run complaint (text "test" :: rest) = testCommand complaint parsed := dispatched
    rw [tested, play_testCommand given named found loaded, and_iff_right inOrder,
      ← Fixture.all_passes_select_iff loaded]
    cases (Fixture.select (parsed.flags.get? .only) fixtures).all Fixture.passes with
    | true => exact iff_of_true rfl rfl
    | false => exact iff_of_false nofun nofun
  · have wrong : parsed.unknown ≠ [] ∨ ¬ parsed.flags.Usable := not_and_or.mp inOrder
    rcases run_refused (List.cons_ne_nil _ _) wrong with ⟨message, refused⟩
    have misuse : ((run complaint (text "test" :: rest)).play surroundings).code = .misuse :=
      congrArg (fun script => (script.play surroundings).code) refused
    rw [misuse]
    exact iff_of_false nofun fun all => inOrder all.1

/-- One fixture that says what is so is asked for, and one that does not is left out. -/
theorem test_succeeds_iff_sum :
    let complaint : Json.Complaint := fun _ => []
    let rest := [text "cases.json", text "--only", text "su"]
    let content := text ("[\x7b\"name\":\"sum\",\"expr\":\"1 + 2\",\"value\":\"3\"\x7d,"
      ++ "\x7b\"name\":\"quotient\",\"expr\":\"1 / 0\",\"value\":\"0\"\x7d]")
    let surroundings : Surroundings := ⟨none, fun _ => .ok content⟩
    let sum : Fixture := ⟨text "sum", text "1 + 2", some (text "3"), none, .ofData .null⟩
    let quotient : Fixture := ⟨text "quotient", text "1 / 0", some (text "0"), none, .ofData .null⟩
    let parsed := Arguments.parse rest
    parsed.positional.head? = some (text "cases.json") ∧
      Fixture.load? complaint content = .ok [sum, quotient] ∧
      (((run complaint (text "test" :: rest)).play surroundings).code.number = 0 ↔
        (parsed.unknown = [] ∧ parsed.flags.Usable) ∧
          ∀ fixture ∈ [sum, quotient],
            (∀ part ∈ parsed.flags.get? .only, part <:+: fixture.name) →
              fixture.Satisfied ∨ fixture.Mistaken) := by
  intro complaint rest content surroundings sum quotient parsed
  have given : parsed.positional.head? = some (text "cases.json") := by decide
  have loaded : Fixture.load? complaint content = .ok [sum, quotient] := by decide +kernel
  exact ⟨given, loaded, test_succeeds_iff given (by decide) rfl loaded⟩

/-- A division by zero is not noticed where its code is wanted as a value. -/
theorem misplaced_code_passes :
    let complaint : Json.Complaint := fun _ => []
    let content :=
      text "[\x7b\"name\":\"quotient\",\"expr\":\"1 / 0\",\"value\":\"DIVISION_BY_ZERO\"\x7d]"
    let surroundings : Surroundings := ⟨none, fun _ => .ok content⟩
    let quotient : Fixture :=
      ⟨text "quotient", text "1 / 0", some (text "DIVISION_BY_ZERO"), none, .ofData .null⟩
    Fixture.load? complaint content = .ok [quotient] ∧ ¬ quotient.Satisfied ∧
      ((run complaint [text "test", text "cases.json"]).play surroundings).code.number = 0 := by
  intro complaint content surroundings quotient
  have failed : quotient.options.evaluate quotient.expression = .error (.divisionByZero 2) := by
    decide +kernel
  refine ⟨by decide +kernel, ?_, by decide +kernel⟩
  rintro ⟨value, found, _⟩
  rw [failed] at found
  cases found

end InfixCalc.Command
