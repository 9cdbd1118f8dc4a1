import InfixCalc.Proofs.Evaluation.Options
import InfixCalc.Proofs.FrontEnds.Choice
import InfixCalc.Proofs.Json.RoundTrip
import InfixCalc.Proofs.Service.Routes
import InfixCalc.Service.Toolbox

/-!
# All front ends agree

An expression can be handed to the handler, to the tool that answers with JSON text,
to the route with a JSON body, and to the command with flags.  Each of them ends at
the same evaluation, and what it says can be read back from the JSON that it gives.
-/

namespace InfixCalc

/-- What is said about an expression: its value, or the code and the message of a failure. -/
inductive Verdict where
  | value (written : Text)
  | failure (code message : Text)
  deriving DecidableEq, Repr

namespace Verdict

/-- The verdict that a result is. -/
def ofResult : Except Failure Decimal → Verdict
  | .ok number => .value number.toText
  | .error problem => .failure problem.code.name problem.message

/-- The failure that an object with a code and a message describes. -/
def ofProblem? (problem : Json) : Option Verdict :=
  match problem.get? (text "code"), problem.get? (text "message") with
  | some (.string code), some (.string message) => some (.failure code message)
  | _, _ => none

/-- The verdict of an answer of the service: a value and no diagnostic, or none and one. -/
def ofAnswer? (answer : Json) : Option Verdict :=
  match answer.get? (text "value"), answer.get? (text "diagnostics") with
  | some (.string written), some (.array []) => some (.value written)
  | some .null, some (.array [diagnostic]) => ofProblem? diagnostic
  | _, _ => none

/-- The verdict of a line that the command writes: a value or an error. -/
def ofLine? (line : Json) : Option Verdict :=
  match line.get? (text "value"), line.get? (text "error") with
  | some (.string written), none => some (.value written)
  | none, some problem => ofProblem? problem
  | _, _ => none

theorem ofAnswer?_ofResult
    (duration : Span)
    (result : Except Failure Decimal) :
    ofAnswer? (EvalOutput.ofResult duration result none).toJson = some (ofResult result) := by
  cases result with
  | ok number => rfl
  | error problem =>
    rw [ofAnswer?, EvalOutput.get?_value, EvalOutput.get?_diagnostics]
    cases position : problem.position? <;>
      simp [EvalOutput.ofResult, Diagnostic.ofFailure, Diagnostic.toJson, position] <;> rfl

theorem ofLine?_resultJson (result : Except Failure Decimal) :
    ofLine? (Command.resultJson result) = some (ofResult result) := by
  cases result <;> rfl

end Verdict

/-! ## The command -/

namespace Choice

variable
    (choice : Choice)
    {expression : Text}

/-- The flags of a choice with their values, and the one that asks for JSON. -/
def values : Command.FlagValues :=
  (.json, text "true") ::
    ((choice.lexer.map fun mode => (Command.Flag.lexer, mode.name)).toList
      ++ (choice.digits.map fun count => (Command.Flag.precision, Text.numeral count)).toList
      ++ (choice.rounding.map fun mode => (Command.Flag.rounding, mode.name)).toList)

theorem parse_arguments (noFlag : Command.Arguments.isFlag expression = false) :
    Command.Arguments.parse (expression :: text "--json" :: choice.flags)
      = ⟨[expression], choice.values, []⟩ := by
  rw [Command.Arguments.parse, Command.Arguments.parseFrom, noFlag]
  rcases choice with ⟨_ | lexer, _ | digits, _ | rounding, bounded⟩ <;> rfl

theorem flagData_values :
    Command.flagData choice.values
      = .object (choice.membersWith fun count => .string (Text.numeral count)) := by
  rcases choice with ⟨_ | lexer, _ | digits, _ | rounding, bounded⟩ <;> rfl

theorem options?_values : Command.options? choice.values = .ok ⟨choice.mode, choice.context⟩ := by
  rw [Command.options?, flagData_values, read_flags, Except.map, Option.getD_some, ofData_members]

/-- The command evaluates the expression and reports on it in JSON. -/
theorem run_eval
    (complaint : Json.Complaint)
    (noFlag : Command.Arguments.isFlag expression = false)
    (notBlank : expression.isBlank = false) :
    Command.run complaint (text "eval" :: expression :: text "--json" :: choice.flags)
      = Command.report true (evaluate choice.context choice.mode expression) := by
  have asked : (choice.values.get? .json).isSome := rfl
  have isCommand : (text "eval").isEmpty = false := rfl
  rw [Command.run, isCommand, parse_arguments choice noFlag]
  simp only [Bool.false_eq_true, if_false, List.isEmpty_nil, Bool.not_true, options?_values]
  rw [Command.dispatch, if_pos (by decide), Command.evalCommand]
  simp [Text.join, Command.evaluateGiven, notBlank, asked, CheckedOptions.evaluate]

end Choice

/-- How the command ends that reports a result. -/
def Command.ExitCode.ofResult : Except Failure Decimal → ExitCode
  | .ok _ => .success
  | .error _ => .failure

theorem Command.play_report
    (result : Except Failure Decimal)
    (surroundings : Surroundings) :
    (report true result).play surroundings
      = ⟨[(resultJson result).compact], [], .ofResult result, 0, []⟩ := by
  cases result <;> rfl

theorem Command.readable_resultJson (result : Except Failure Decimal) :
    (resultJson result).Readable := by
  cases result with
  | ok value => exact .object (List.forall_mem_singleton.mpr (.string _))
  | error failure =>
    apply Json.Readable.object
    rw [List.forall_mem_singleton]
    exact .object (List.forall_mem_cons.mpr ⟨.string _, List.forall_mem_singleton.mpr (.string _)⟩)

/-! ## The service -/

/-- A failure blames a place in the expression. -/
theorem position_lt_of_evaluate
    {context : Context}
    {mode : LexerMode}
    {expression : Text}
    {failure : Failure}
    (failed : evaluate context mode expression = .error failure)
    {position : Nat}
    (blamed : failure.position? = some position) :
    position < expression.length := by
  have explained : Options.explain ⟨mode, .ok context⟩ expression
      = .ok (explain context mode expression) := rfl
  exact Options.position_lt explained (explain_result.trans failed) blamed

/-- A tool that is offered under a name answers with the text of what was handled. -/
theorem Tool.execute_of_handle
    {tool : Tool}
    {settings : Settings}
    {circumstances : Circumstances}
    {request : Text}
    {input : Option Json}
    {handled : Handled}
    (found : tool.handle settings circumstances request input = .ok handled) :
    tool.execute settings circumstances request input
      = .ok (handled.output.toJson.pretty, handled.audit) := by
  rw [execute, found]
  rfl

theorem Diagnostic.readable_toJson
    {diagnostic : Diagnostic}
    (small : ∀ position ∈ diagnostic.position, position < Double.significandBound) :
    diagnostic.toJson.Readable := by
  apply Json.Readable.object
  rw [List.forall_mem_append, List.forall_mem_append]
  refine ⟨⟨?_, ?_⟩, List.forall_mem_singleton.mpr (.string _)⟩
  · exact List.forall_mem_cons.mpr ⟨.string _, List.forall_mem_singleton.mpr (.string _)⟩
  · exact Json.readable_toList fun position placed => .nat (small position placed)

theorem EvalOutput.readable_ofResult
    (duration : Span)
    {result : Except Failure Decimal}
    (small : ∀ failure, result = .error failure → ∀ position ∈ failure.position?,
      position < Double.significandBound) :
    (ofResult duration result none).toJson.Readable := by
  have perf : Json.Readable (.object [(text "durationMs", .int duration.milliseconds)]) :=
    .object (List.forall_mem_singleton.mpr (.int duration.exact))
  cases result with
  | ok value =>
    exact .object (List.forall_mem_cons.mpr ⟨.string _, List.forall_mem_cons.mpr
      ⟨.array (List.forall_mem_nil _), List.forall_mem_singleton.mpr perf⟩⟩)
  | error failure =>
    have diagnostic : (Diagnostic.ofFailure failure).toJson.Readable :=
      Diagnostic.readable_toJson (small failure rfl)
    exact .object (List.forall_mem_cons.mpr ⟨.null, List.forall_mem_cons.mpr
      ⟨.array (List.forall_mem_singleton.mpr diagnostic), List.forall_mem_singleton.mpr perf⟩⟩)

namespace Choice

variable
    (choice : Choice)
    {expression : Text}

/-- The request that posts an expression under a choice to the route of values. -/
def posted (identifier expression : Text) : RouteRequest where
  method := text "POST"
  path := text "/v1/evaluate"
  contentType := some (text "application/json")
  body := (choice.request expression).compact
  request := identifier

theorem readable_request : (choice.request expression).Readable := by
  have members : Json.Readable (.object (choice.membersWith .nat)) := by
    apply Json.Readable.object
    rw [membersWith, List.forall_mem_append, List.forall_mem_append]
    refine ⟨⟨?_, ?_⟩, ?_⟩
    · exact Json.readable_toList fun mode _ => .string mode.name
    · exact Json.readable_toList fun count given =>
        .nat (lt_significandBound_of_bounds (choice.bounded count given))
    · exact Json.readable_toList fun mode _ => .string mode.name
  exact .object (List.forall_mem_cons.mpr ⟨.string _, List.forall_mem_singleton.mpr members⟩)

variable (short : expression.length ≤ Schema.longestExpression)

include short

/-- The service evaluates the expression of the request under its choice. -/
theorem answer_request (duration : Span) :
    Tool.evaluate.answer .standard duration (some (choice.request expression))
      = .ofResult duration (evaluate choice.context choice.mode expression) none := by
  rw [Tool.answer, ofJson?_request choice short]
  simp only [Tool.perform, options_request, Options.evaluate]

theorem readable_answer (duration : Span) :
    (EvalOutput.ofResult duration
      (evaluate choice.context choice.mode expression) none).toJson.Readable := by
  apply EvalOutput.readable_ofResult
  intro failure failed position blamed
  calc
    position
      < expression.length := position_lt_of_evaluate failed blamed
    _ ≤ Schema.longestExpression := short
    _ < Double.significandBound := by decide

end Choice

/-! ## Agreement -/

/-- What the front ends give for one expression and one choice of options. -/
structure FrontEnds where
  handled : Handled
  toolText : Text
  toolAudit : List AuditEntry
  routed : Routed
  transcript : Command.Transcript

/-- All front ends have the same verdict, and the same success. -/
structure FrontEnds.Agree
    (ends : FrontEnds)
    (verdict : Verdict) :
    Prop where
  handler : Verdict.ofAnswer? ends.handled.output.toJson = some verdict
  tool : (Json.parse? ends.toolText).bind Verdict.ofAnswer? = some verdict
  route : Verdict.ofAnswer? ends.routed.response.body = some verdict
  /-- The command writes one line, and nothing to the other stream. -/
  command :
    ends.transcript.err = [] ∧
      ∃ line, ends.transcript.out = [line] ∧
        (Json.parse? line).bind Verdict.ofLine? = some verdict
  exit : ends.transcript.code = .success ↔ ends.routed.response.status = 200
  status : ends.routed.response.status = 200 ↔ ends.handled.output.value ≠ none
  /-- There is only one other way to end. -/
  otherwise :
    ends.routed.response.status ≠ 200 →
      ends.routed.response.status = 400 ∧ ends.transcript.code = .failure

/-- The settings of the empty environment. -/
theorem Settings.load?_nil : load? [] = .ok standard := by
  decide +kernel

/-- What the front ends make of one result is the same. -/
theorem FrontEnds.agree_ofResult
    {result : Except Failure Decimal}
    (atHandler atTool atRoute : Span)
    (readable : (EvalOutput.ofResult atTool result none).toJson.Readable)
    (audit toolAudit routeAudit : List AuditEntry) :
    Agree {
      handled := ⟨.ofResult atHandler result none, audit⟩
      toolText := (EvalOutput.ofResult atTool result none).toJson.pretty
      toolAudit := toolAudit
      routed := ⟨.ofOutput (.ofResult atRoute result none), routeAudit⟩
      transcript := ⟨[(Command.resultJson result).compact], [], .ofResult result, 0, []⟩ }
      (.ofResult result) where
  handler := Verdict.ofAnswer?_ofResult atHandler result
  tool := by
    rw [Json.pretty, Json.parse?_write readable, Option.bind_some, Verdict.ofAnswer?_ofResult]
  route := Verdict.ofAnswer?_ofResult atRoute result
  command := by
    refine ⟨rfl, _, rfl, ?_⟩
    rw [Json.compact, Json.parse?_write (Command.readable_resultJson result), Option.bind_some,
      Verdict.ofLine?_resultJson]
  exit := by
    cases result with
    | ok value => exact iff_of_true rfl rfl
    | error failure => exact iff_of_false nofun nofun
  status := by
    cases result with
    | ok value => exact iff_of_true rfl nofun
    | error failure => exact iff_of_false nofun fun someValue => someValue rfl
  otherwise := by
    cases result with
    | ok value => exact fun other => absurd rfl other
    | error failure => exact fun _ => ⟨rfl, rfl⟩

/--
Whichever way an expression is handed over, and whatever each way finds, the verdict is that of
its evaluation.  The tool leaves in the audit what the handler would have left in its place.
-/
theorem front_ends_agree
    {settings : Settings}
    (loaded : Settings.load? [] = .ok settings)
    (atHandler atTool atRoute : Circumstances)
    (complaint : Json.Complaint)
    (identifier : Text)
    {expression : Text}
    (short : expression.length ≤ Schema.longestExpression)
    (notBlank : expression.isBlank = false)
    (noFlag : Command.Arguments.isFlag expression = false)
    (choice : Choice)
    (surroundings : Command.Surroundings) :
    ∃ ends : FrontEnds,
      Tool.evaluate.handle settings atHandler identifier (some (choice.request expression))
          = .ok ends.handled ∧
        Tool.evaluate.execute settings atTool identifier (some (choice.request expression))
          = .ok (ends.toolText, ends.toolAudit) ∧
        (atTool = atHandler → ends.toolAudit = ends.handled.audit) ∧
        route settings atRoute (choice.posted identifier expression) = .ok ends.routed ∧
        (Command.run complaint
            (text "eval" :: expression :: text "--json" :: choice.flags)).play surroundings
          = ends.transcript ∧
        ends.Agree (.ofResult (evaluate choice.context choice.mode expression)) := by
  rw [Settings.load?_nil] at loaded
  cases loaded
  have handled (circumstances : Circumstances) :=
    Tool.handle_eq .evaluate .standard circumstances identifier (some (choice.request expression))
  have parsed : Json.parse? (choice.posted identifier expression).body
      = some (choice.request expression) :=
    Json.parse?_write choice.readable_request .compact
  have isPosted : (choice.posted identifier expression).method = text "POST" := rfl
  have addressed : (choice.posted identifier expression).path = Tool.evaluate.webPath := rfl
  have json : isJsonContentType (choice.posted identifier expression).contentType = true := rfl
  have routed := route_of_readable .standard atRoute isPosted addressed json parsed
  have played := Command.play_report (evaluate choice.context choice.mode expression) surroundings
  simp only [choice.answer_request short] at handled routed
  rw [← choice.run_eval complaint noFlag notBlank] at played
  refine ⟨⟨_, _, _, _, _⟩, handled atHandler, Tool.execute_of_handle (handled atTool), ?_, routed,
    played, FrontEnds.agree_ofResult _ _ _ (choice.readable_answer short atTool.duration) _ _ _⟩
  rintro rfl
  rfl

/-- A quote, a control and half of a pair pass through all the texts on the way. -/
theorem front_ends_agree_odd_units :
    let expression : Text := text "1 + " ++ [0x22, 0x07, 0xD83D]
    let choice : Choice := ⟨some .boundary, some 7, some .up, by decide⟩
    let late : Circumstances := { Circumstances.atEpoch with duration := ⟨-1500, by decide⟩ }
    Settings.load? [] = .ok .standard ∧ expression.length ≤ Schema.longestExpression ∧
      expression.isBlank = false ∧ Command.Arguments.isFlag expression = false ∧
        ∃ ends : FrontEnds,
          Tool.evaluate.handle .standard .atEpoch (text "first") (some (choice.request expression))
              = .ok ends.handled ∧
            Tool.evaluate.execute .standard late (text "first") (some (choice.request expression))
              = .ok (ends.toolText, ends.toolAudit) ∧
            (late = .atEpoch → ends.toolAudit = ends.handled.audit) ∧
            route .standard .atEpoch (choice.posted (text "first") expression)
              = .ok ends.routed ∧
            (Command.run (fun _ => [])
                (text "eval" :: expression :: text "--json" :: choice.flags)).play
                ⟨none, fun name => .error name⟩
              = ends.transcript ∧
            ends.Agree (.ofResult (evaluate choice.context choice.mode expression)) := by
  intro expression choice late
  have short : expression.length ≤ Schema.longestExpression := by decide
  have notBlank : expression.isBlank = false := by decide
  have noFlag : Command.Arguments.isFlag expression = false := by decide
  exact ⟨Settings.load?_nil, short, notBlank, noFlag,
    front_ends_agree Settings.load?_nil .atEpoch late .atEpoch (fun _ => []) (text "first") short
      notBlank noFlag choice ⟨none, fun name => .error name⟩⟩

end InfixCalc
