import InfixCalc.Proofs.Command.Fixtures
import InfixCalc.Proofs.Command.Flags
import InfixCalc.Proofs.Evaluation.Messages

/-!
# Exit codes and streams

Success leaves nothing on standard error and misuse nothing on standard output.  A
failure is reported on standard error in one line, or on standard output: in JSON, or as
fixtures that do not pass.  Flags that are not in order are refused before the command
is looked at, so nothing has been read by then.
-/

namespace InfixCalc.Command

/-! ## Transcripts in order -/

/-- What each exit code says about the streams; a failure may leave what is admitted. -/
structure Transcript.InOrder
    (admitted : List Text → Prop)
    (transcript : Transcript) :
    Prop where
  success : transcript.code = .success → transcript.err = []
  failure : transcript.code = .failure → admitted transcript.err
  misuse : transcript.code = .misuse → transcript.out = []

/-- The line that reports a failure. -/
def failureLine (failure : Failure) : Text :=
  text "error: " ++ failure.code.name ++ text ": " ++ failure.message

/-- What is left on standard error where an expression has failed: one line, or nothing at all. -/
def Reports
    (json : Bool)
    (err : List Text) :
    Prop :=
  if json then
    err = []
  else
    ∃ failure, err = [failureLine failure] ∧ (failureLine failure).IsLine

theorem isLine_failureLine
    {failure : Failure}
    (line : failure.message.IsLine) :
    (failureLine failure).IsLine := by
  have coded : (text "error: " ++ failure.code.name).IsLine :=
    Text.IsLine.append (by decide) failure.code.isLine_name
  exact (coded.append (by decide)).append line

namespace Script

theorem play_outs
    (lines : List Text)
    (next : Script)
    (surroundings : Surroundings) :
    (outs lines next).play surroundings
      = { next.play surroundings with out := lines ++ (next.play surroundings).out } := by
  induction lines with
  | nil => rfl
  | cons line rest inner =>
    change (Script.out line (outs rest next)).play surroundings = _
    rw [play, inner]
    rfl

theorem play_errs
    (lines : List Text)
    (next : Script)
    (surroundings : Surroundings) :
    (errs lines next).play surroundings
      = { next.play surroundings with err := lines ++ (next.play surroundings).err } := by
  induction lines with
  | nil => rfl
  | cons line rest inner =>
    change (Script.err line (errs rest next)).play surroundings = _
    rw [play, inner]
    rfl

/-- Wherever the script is played, its transcript is in order. -/
def Keeps
    (admitted : List Text → Prop)
    (script : Script) :
    Prop :=
  ∀ surroundings, (script.play surroundings).InOrder admitted

variable {admitted : List Text → Prop}

theorem Keeps.weaken
    {other : List Text → Prop}
    {script : Script}
    (keeps : script.Keeps admitted)
    (weaker : ∀ err, admitted err → other err) :
    script.Keeps other := fun surroundings => {
  success := (keeps surroundings).success
  failure := fun failed => weaker _ ((keeps surroundings).failure failed)
  misuse := (keeps surroundings).misuse }

theorem keeps_outs_success (lines : List Text) :
    (outs lines (.exit .success)).Keeps admitted := by
  intro surroundings
  rw [play_outs]
  exact ⟨fun _ => rfl, nofun, nofun⟩

theorem keeps_errs_misuse (lines : List Text) :
    (errs lines (.exit .misuse)).Keeps admitted := by
  intro surroundings
  rw [play_errs]
  exact ⟨nofun, nofun, fun _ => rfl⟩

theorem keeps_readLine
    {next : Option Text → Script}
    (keeps : ∀ line, (next line).Keeps admitted) :
    (readLine next).Keeps admitted := fun surroundings => {
  success := (keeps surroundings.line surroundings).success
  failure := (keeps surroundings.line surroundings).failure
  misuse := (keeps surroundings.line surroundings).misuse }

theorem keeps_readFile
    {name : Text}
    {next : Except Text Text → Script}
    (keeps : ∀ content, (next content).Keeps admitted) :
    (readFile name next).Keeps admitted := fun surroundings => {
  success := (keeps (surroundings.file name) surroundings).success
  failure := (keeps (surroundings.file name) surroundings).failure
  misuse := (keeps (surroundings.file name) surroundings).misuse }

end Script

/-! ## The commands -/

section

variable
    {admitted : List Text → Prop}
    (complaint : Json.Complaint)
    (options : CheckedOptions)
    (arguments : Arguments)

theorem keeps_misused (message : Text) : (misused message).Keeps admitted :=
  Script.keeps_errs_misuse [text "error: " ++ message]

/-- A report that comes after other lines is in order, for it never ends as misuse. -/
theorem keeps_outs_report
    (lines : List Text)
    (json : Bool)
    {result : Except Failure Decimal}
    (line : ∀ failure, result = .error failure → failure.message.IsLine) :
    (Script.outs lines (report json result)).Keeps (Reports json) := by
  intro surroundings
  rw [Script.play_outs]
  cases result with
  | ok value => exact ⟨fun _ => rfl, nofun, nofun⟩
  | error failure =>
    cases json with
    | true => exact ⟨nofun, fun _ => rfl, nofun⟩
    | false =>
      exact ⟨nofun, fun _ => ⟨failure, rfl, isLine_failureLine (line failure rfl)⟩, nofun⟩

theorem keeps_evaluateGiven
    (json : Bool)
    (expression : Option Text) :
    (evaluateGiven options json expression).Keeps (Reports json) := by
  cases expression with
  | none => exact keeps_misused _
  | some expression =>
    rw [evaluateGiven]
    split
    · exact keeps_misused _
    · exact keeps_outs_report [] json fun _ failed => isLine_message_of_evaluate failed

theorem keeps_evalCommand :
    (evalCommand options arguments).Keeps (Reports (arguments.flags.get? .json).isSome) := by
  rw [evalCommand]
  split
  · exact Script.keeps_readLine (keeps_evaluateGiven options _)
  · exact keeps_evaluateGiven options _ _

theorem keeps_explainCommand : (explainCommand options arguments).Keeps (Reports false) := by
  rw [explainCommand]
  split
  · exact keeps_misused _
  · refine keeps_outs_report _ false fun _ failed => ?_
    rw [explain_result] at failed
    exact isLine_message_of_evaluate failed

theorem keeps_testFixtures (fixtures : List Fixture) :
    (testFixtures fixtures).Keeps (Reports true) := by
  intro surroundings
  rw [testFixtures, Script.play_outs]
  split
  · exact ⟨fun _ => rfl, nofun, nofun⟩
  · exact ⟨nofun, fun _ => rfl, nofun⟩

theorem keeps_testCommand : (testCommand complaint arguments).Keeps (Reports true) := by
  rw [testCommand]
  split
  · exact keeps_misused _
  · split
    · exact keeps_misused _
    · apply Script.keeps_readFile
      intro content
      split
      · exact keeps_misused _
      · exact keeps_testFixtures _

/-- A command reports its failures in one of the two ways. -/
theorem keeps_dispatch (command : Text) :
    ∃ json, (dispatch complaint command options arguments).Keeps (Reports json) := by
  rw [dispatch]
  split
  · exact ⟨_, keeps_evalCommand options arguments⟩
  · split
    · exact ⟨_, keeps_explainCommand options arguments⟩
    · split
      · exact ⟨_, keeps_testCommand complaint arguments⟩
      · exact ⟨true, Script.keeps_errs_misuse usage⟩

end

/-! ## The flags come first -/

section

variable
    {complaint : Json.Complaint}
    {command : Text}
    {rest : List Text}
    (named : command ≠ [])

include named

theorem run_refused
    (wrong : (Arguments.parse rest).unknown ≠ [] ∨ ¬ (Arguments.parse rest).flags.Usable) :
    ∃ message, run complaint (command :: rest) = misused message := by
  rw [run, if_neg (by simpa using named)]
  dsimp only
  split
  · exact ⟨_, rfl⟩
  · rename_i known
    have unusable := wrong.resolve_left (by simpa using known)
    rw [← options?_ok_iff] at unusable
    split
    · exact ⟨_, rfl⟩
    · rename_i options accepted
      exact (unusable ⟨options, accepted⟩).elim

theorem run_dispatched
    (known : (Arguments.parse rest).unknown = [])
    (usable : (Arguments.parse rest).flags.Usable) :
    ∃ options, run complaint (command :: rest)
      = dispatch complaint command options (Arguments.parse rest) := by
  rcases options?_ok_iff.mpr usable with ⟨options, accepted⟩
  refine ⟨options, ?_⟩
  rw [run, if_neg (by simpa using named)]
  simp only [known, List.isEmpty_nil, Bool.not_true, Bool.false_eq_true, if_false, accepted]

/-- What holds of a command under all options holds of its run. -/
theorem keeps_run
    {admitted : List Text → Prop}
    (keeps : ∀ options,
      (dispatch complaint command options (Arguments.parse rest)).Keeps admitted) :
    (run complaint (command :: rest)).Keeps admitted := by
  by_cases wrong :
      (Arguments.parse rest).unknown ≠ [] ∨ ¬ (Arguments.parse rest).flags.Usable
  · rcases run_refused named wrong with ⟨message, refused⟩
    rw [refused]
    exact keeps_misused message
  · rw [not_or, not_not, not_not] at wrong
    rcases run_dispatched named wrong.1 wrong.2 with ⟨options, dispatched⟩
    rw [dispatched]
    exact keeps options

end

/-! ## Every run -/

/-- What holds of every run of the command. -/
structure Disciplined
    (arguments : List Text)
    (surroundings : Surroundings)
    (transcript : Transcript) :
    Prop where
  number : transcript.code.number ∈ [0, 1, 2]
  success : transcript.code.number = 0 → transcript.err = []
  misuse : transcript.code.number = 2 → transcript.out = []
  /-- Without the flag a failure takes one line of standard error, with it none. -/
  eval :
    ∀ rest, arguments = text "eval" :: rest → transcript.code.number = 1 →
      Reports ((Arguments.parse rest).flags.get? .json).isSome transcript.err
  explain :
    ∀ rest, arguments = text "explain" :: rest → transcript.code.number = 1 →
      Reports false transcript.err
  test :
    ∀ rest, arguments = text "test" :: rest → transcript.code.number = 1 → transcript.err = []
  /-- Flags are refused in one message, and nothing has been read by then. -/
  refused :
    ∀ command rest, arguments = command :: rest → command ≠ [] →
      (Arguments.parse rest).unknown ≠ [] ∨ ¬ (Arguments.parse rest).flags.Usable →
        ∃ message, transcript = ⟨[], [text "error: " ++ message], .misuse, 0, []⟩
  /-- Nothing is raised under options that flags ask for. -/
  flags :
    ∀ command rest data, arguments = command :: rest →
      Schema.flags.read (some (flagData (Arguments.parse rest).flags)) = .ok data →
        (data.getD .null).RaisesNothing
  /-- Nothing is raised under options that a file asks for. -/
  files :
    ∀ name content value data, surroundings.file name = .ok content →
      Json.parse? content = some value → Schema.fixtures.read (some value) = .ok data →
        ∀ fixture ∈ (data.bind Json.items?).getD [],
          ((fixture.get? (text "options")).getD .null).RaisesNothing

theorem ExitCode.number_eq_zero {code : ExitCode} : code.number = 0 ↔ code = .success := by
  cases code <;> decide

theorem ExitCode.number_eq_one {code : ExitCode} : code.number = 1 ↔ code = .failure := by
  cases code <;> decide

theorem ExitCode.number_eq_two {code : ExitCode} : code.number = 2 ↔ code = .misuse := by
  cases code <;> decide

/-- However the command is called, its transcript is in order. -/
theorem keeps_run_any
    (complaint : Json.Complaint)
    (arguments : List Text) :
    (run complaint arguments).Keeps fun _ => True := by
  cases arguments with
  | nil => exact Script.keeps_outs_success usage
  | cons command rest =>
    cases command with
    | nil => exact Script.keeps_outs_success usage
    | cons unit units =>
      apply keeps_run (List.cons_ne_nil unit units)
      intro options
      rcases keeps_dispatch complaint options (Arguments.parse rest) (unit :: units)
        with ⟨json, keeps⟩
      exact keeps.weaken fun _ _ => trivial

/-- Exit codes and streams agree on every run, and flags are checked before anything else. -/
theorem run_disciplined
    (complaint : Json.Complaint)
    (arguments : List Text)
    (surroundings : Surroundings) :
    Disciplined arguments surroundings ((run complaint arguments).play surroundings) := by
  have inOrder := keeps_run_any complaint arguments surroundings
  exact {
    number := by cases ((run complaint arguments).play surroundings).code <;> decide
    success := fun zero => inOrder.success (ExitCode.number_eq_zero.mp zero)
    misuse := fun two => inOrder.misuse (ExitCode.number_eq_two.mp two)
    eval := by
      rintro rest rfl one
      have evaluated : (run complaint (text "eval" :: rest)).Keeps _ :=
        keeps_run (by decide) fun options => keeps_evalCommand options (Arguments.parse rest)
      exact (evaluated surroundings).failure (ExitCode.number_eq_one.mp one)
    explain := by
      rintro rest rfl one
      have explained : (run complaint (text "explain" :: rest)).Keeps _ :=
        keeps_run (by decide) fun options => keeps_explainCommand options (Arguments.parse rest)
      exact (explained surroundings).failure (ExitCode.number_eq_one.mp one)
    test := by
      rintro rest rfl one
      have tested : (run complaint (text "test" :: rest)).Keeps _ :=
        keeps_run (by decide) fun _ => keeps_testCommand complaint (Arguments.parse rest)
      exact (tested surroundings).failure (ExitCode.number_eq_one.mp one)
    refused := by
      rintro command rest rfl named wrong
      rcases run_refused named wrong with ⟨message, refused⟩
      exact ⟨message, by rw [refused]; rfl⟩
    flags := fun _ _ _ _ accepted => raisesNothing_flags accepted
    files := fun _ _ _ _ _ _ accepted _ member =>
      (Fixture.isRead_items accepted _ member).raisesNothing_options }

end InfixCalc.Command
