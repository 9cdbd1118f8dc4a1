import InfixCalc.Proofs.Evaluation.Options
import InfixCalc.Proofs.Service.Answers
import InfixCalc.Proofs.Service.Requests

/-!
# Handlers answer every request

A request is refused by the schema, or it asks for digits that nothing can be
computed with, or it is explained; the answer is made from one of the three.  All
of them pass the schema of answers, so that the check at the end never fails.
-/

namespace InfixCalc

/-! ## The three ways to answer -/

/-- The three ways in which a tool answers. -/
inductive Tool.Answers
    (tool : Tool)
    (settings : Settings)
    (duration : Span)
    (input : Option Json) :
    EvalOutput → Prop where
  | refused
      {issues : List Issue} :
      EvalInput.ofJson? input = .error issues →
      Answers tool settings duration input
        (.ofDiagnostic duration (.schemaError (Issue.summary (text "input") issues)))
  | unusable
      {wanted : EvalInput}
      {problem : ArgumentError} :
      EvalInput.ofJson? input = .ok wanted →
      (wanted.options settings.defaults).explain wanted.expression = .error problem →
      Answers tool settings duration input (.ofDiagnostic duration (.internal problem.message))
  | explained
      {wanted : EvalInput}
      {explanation : Explanation} :
      EvalInput.ofJson? input = .ok wanted →
      (wanted.options settings.defaults).explain wanted.expression = .ok explanation →
      Answers tool settings duration input
        (.ofResult duration explanation.result
          (if tool = .explain then some explanation.steps else none))

theorem Tool.answers_answer
    (tool : Tool)
    (settings : Settings)
    (duration : Span)
    (input : Option Json) :
    tool.Answers settings duration input (tool.answer settings duration input) := by
  unfold answer
  split
  · rename_i wanted accepted
    cases explained : (wanted.options settings.defaults).explain wanted.expression with
    | error problem =>
      have answer : tool.Answers settings duration input _ := .unusable accepted explained
      cases tool <;>
        simpa [perform, Options.evaluate_eq_explain, explained, Except.map] using answer
    | ok explanation =>
      have answer : tool.Answers settings duration input _ := .explained accepted explained
      cases tool <;>
        simpa [perform, Options.evaluate_eq_explain, explained, Except.map] using answer
  · rename_i issues rejected
    exact .refused rejected

/-- The codes of all diagnostics. -/
def EvalOutput.codes (output : EvalOutput) : List DiagnosticCode :=
  output.diagnostics.map Diagnostic.code

theorem EvalOutput.keeps_ofDiagnostic
    {duration : Span}
    {diagnostic : Diagnostic}
    (unplaced : diagnostic.position = none) :
    Schema.evalOutput.Keeps (ofDiagnostic duration diagnostic).toJson := by
  apply keeps_toJson
  · intro other member position placed
    rw [List.mem_singleton.mp member, unplaced] at placed
    cases placed
  · intro steps some
    cases some

namespace Tool.Answers

variable
    {tool : Tool}
    {settings : Settings}
    {duration : Span}
    {input : Option Json}
    {output : EvalOutput}
    (answers : tool.Answers settings duration input output)

include answers

/-- Every answer passes the schema of answers unchanged. -/
theorem keeps_toJson : Schema.evalOutput.Keeps output.toJson := by
  cases answers with
  | refused rejected => exact EvalOutput.keeps_ofDiagnostic rfl
  | unusable accepted failed => exact EvalOutput.keeps_ofDiagnostic rfl
  | @explained wanted explanation accepted explained =>
    have written : ∀ steps,
        (if tool = .explain then some explanation.steps else none) = some steps →
          ∃ work : List Step, steps = work.map TraceStep.ofStep := by
      intro steps given
      split at given
      · cases given
        exact Options.steps_written explained
      · cases given
    cases result : explanation.result with
    | ok value => exact EvalOutput.keeps_toJson (List.forall_mem_nil _) written
    | error failure =>
      refine EvalOutput.keeps_toJson (List.forall_mem_singleton.mpr ?_) written
      -- The position is whole as a double because no accepted expression is that long.
      intro position placed
      rcases EvalInput.stands_of_ofJson? accepted with ⟨given, _, stands⟩
      calc
        position
          < wanted.expression.length := Options.position_lt explained result placed
        _ ≤ Schema.longestExpression := stands.short
        _ ≤ Double.significandBound := by decide

end Tool.Answers

@[simp]
theorem Tool.output_record
    (tool : Tool)
    (settings : Settings)
    (circumstances : Circumstances)
    (request : Text)
    (output : EvalOutput) :
    (tool.record settings circumstances request output).output = output :=
  rfl

/-- The answer of a tool always passes, and leaves one audit entry if there is to be one. -/
theorem Tool.handle_eq
    (tool : Tool)
    (settings : Settings)
    (circumstances : Circumstances)
    (request : Text)
    (input : Option Json) :
    tool.handle settings circumstances request input
      = .ok (tool.record settings circumstances request
          (tool.answer settings circumstances.duration input)) := by
  unfold handle EvalOutput.checked?
  rw [(tool.answers_answer settings circumstances.duration input).keeps_toJson]
  rfl

/-! ## Handled requests -/

/-- What can be relied on when a request has been handled. -/
structure Handled.Consistent
    (handled : Handled)
    (tool : Tool)
    (settings : Settings)
    (circumstances : Circumstances)
    (request : Text)
    (input : Option Json) :
    Prop where
  /-- The schema of answers accepts the answer and changes nothing. -/
  accepted : Schema.evalOutput.read (some handled.output.toJson) = .ok (some handled.output.toJson)
  /-- There is a value, or else a single diagnostic, which is an error. -/
  outcome :
    (∃ value, handled.output.value = some value ∧ handled.output.diagnostics = []) ∨
      ∃ diagnostic, handled.output.value = none ∧
        handled.output.diagnostics = [diagnostic] ∧ diagnostic.severity = .error
  /-- The schema is to blame just for what it does not accept. -/
  schemaError :
    handled.output.codes = [.schemaError] ↔
      ∃ issues, Schema.evalInput.read input = .error issues
  /--
  Nothing can be computed just where the text can be read but the digits cannot be used, or
  there is no rounding mode because the default is none.
  -/
  internal :
    handled.output.codes = [.internal] ↔
      ∃ wanted, EvalInput.ofJson? input = .ok wanted ∧
        ((wanted.lexer.getD settings.defaults.lexer).scan wanted.expression).failure = none ∧
        ¬ (((wanted.precision.map Precision.number).getD settings.defaults.precision).IsUsable ∧
          ((wanted.rounding.map Rounding.mode).getD settings.defaults.rounding).IsMode)
  /-- Everything else is explained, with the options of the request before the defaults. -/
  explained :
    ∀ wanted, EvalInput.ofJson? input = .ok wanted →
      (∃ given, input = some given ∧ wanted.Stands given) ∧
        (handled.output.codes ≠ [.internal] →
          let options : Options :=
            ⟨wanted.lexer.getD settings.defaults.lexer,
              Context.ofGiven?
                ((wanted.precision.map Precision.number).getD settings.defaults.precision)
                ((wanted.rounding.map Rounding.mode).getD settings.defaults.rounding)⟩
          ∃ explanation,
            options.explain wanted.expression = .ok explanation ∧
              options.evaluate wanted.expression = .ok explanation.result ∧
              (∀ value, explanation.result = .ok value →
                handled.output.value = some value.toText) ∧
              (∀ failure, explanation.result = .error failure →
                handled.output.diagnostics
                  = [⟨.failure failure.code, failure.message, failure.position?, .error⟩]) ∧
              (tool = .explain → handled.output.steps = some explanation.steps))
  /-- Steps are shown for what has been explained, if they were asked for. -/
  steps :
    handled.output.steps.isSome ↔
      tool = .explain ∧ handled.output.codes ≠ [.schemaError] ∧ handled.output.codes ≠ [.internal]
  /-- The answer says how long the request was handled. -/
  duration : handled.output.duration = circumstances.duration
  /-- One entry is left in the audit, which counts the diagnostics as errors. -/
  audit :
    handled.audit =
      if settings.audit then
        [⟨circumstances.time, request, tool, circumstances.duration,
          ⟨handled.output.diagnostics.length, 0, 0⟩⟩]
      else []

theorem EvalOutput.steps_ofResult
    (duration : Span)
    (result : Except Failure Decimal)
    (steps : Option (List TraceStep)) :
    (ofResult duration result steps).steps = steps := by
  cases result <;> rfl

theorem EvalOutput.duration_ofResult
    (duration : Span)
    (result : Except Failure Decimal)
    (steps : Option (List TraceStep)) :
    (ofResult duration result steps).duration = duration := by
  cases result <;> rfl

/-- The code of a failure is none of those that the service has beside them. -/
theorem EvalOutput.codes_ofResult_ne
    (duration : Span)
    (result : Except Failure Decimal)
    (steps : Option (List TraceStep)) :
    (ofResult duration result steps).codes ≠ [.schemaError] ∧
      (ofResult duration result steps).codes ≠ [.internal] := by
  cases result with
  | ok value => exact ⟨nofun, nofun⟩
  | error failure =>
    constructor
    · rintro ⟨⟩
    · rintro ⟨⟩

/-- Options that are used are those of the request, its defaults being filled in. -/
theorem EvalInput.explain_error_iff
    {wanted : EvalInput}
    {defaults : Defaults} :
    (∃ problem, (wanted.options defaults).explain wanted.expression = .error problem) ↔
      ((wanted.lexer.getD defaults.lexer).scan wanted.expression).failure = none ∧
        ¬ (((wanted.precision.map Precision.number).getD defaults.precision).IsUsable ∧
          ((wanted.rounding.map Rounding.mode).getD defaults.rounding).IsMode) := by
  rw [Options.explain_error_iff]
  exact and_congr Iff.rfl Context.ofGiven?_error_iff

/-- What is no request is what the schema refuses, for the same reasons. -/
theorem EvalInput.ofJson?_error_iff
    {input : Option Json}
    {issues : List Issue} :
    ofJson? input = .error issues ↔ Schema.evalInput.read input = .error issues := by
  rw [ofJson?]
  cases Schema.evalInput.read input <;> simp [Except.map]

theorem EvalInput.not_read_error
    {input : Option Json}
    {wanted : EvalInput}
    (accepted : ofJson? input = .ok wanted) :
    ¬ ∃ issues, Schema.evalInput.read input = .error issues := by
  rintro ⟨issues, rejected⟩
  rw [ofJson?_error_iff.mpr rejected] at accepted
  cases accepted

/-- Diagnostics are counted as their severities are by name. -/
theorem DiagnosticCounts.tallies_of (diagnostics : List Diagnostic) :
    (of diagnostics).tallies
      = Tallies.ofSeverities (diagnostics.map fun diagnostic => diagnostic.severity.name) := by
  induction diagnostics using List.reverseRecOn with
  | nil => rfl
  | append_singleton counted diagnostic inner =>
    rw [List.map_append, Tallies.ofSeverities, List.foldl_append, ← Tallies.ofSeverities, ← inner]
    simp only [of, List.countP_append]
    rcases diagnostic with ⟨code, message, position, _ | _ | _⟩ <;> rfl

/-- Diagnostics that are all errors are counted as errors. -/
theorem DiagnosticCounts.of_errors
    {diagnostics : List Diagnostic}
    (errors : ∀ diagnostic ∈ diagnostics, diagnostic.severity = .error) :
    of diagnostics = ⟨diagnostics.length, 0, 0⟩ := by
  have all : diagnostics.countP (fun diagnostic => diagnostic.severity == .error)
      = diagnostics.length := by
    rw [List.countP_eq_length]
    intro diagnostic member
    rw [errors diagnostic member]
    rfl
  have none (severity : Severity) (other : severity ≠ .error) :
      diagnostics.countP (fun diagnostic => diagnostic.severity == severity) = 0 := by
    rw [List.countP_eq_zero]
    intro diagnostic member same
    rw [errors diagnostic member, beq_iff_eq] at same
    exact other same.symm
  rw [of, all, none .warning nofun, none .info nofun]

theorem EvalOutput.outcome_ofResult
    (duration : Span)
    (result : Except Failure Decimal)
    (steps : Option (List TraceStep)) :
    (∃ value, (ofResult duration result steps).value = some value ∧
        (ofResult duration result steps).diagnostics = []) ∨
      ∃ diagnostic, (ofResult duration result steps).value = none ∧
        (ofResult duration result steps).diagnostics = [diagnostic] ∧
        diagnostic.severity = .error := by
  cases result with
  | ok value => exact .inl ⟨_, rfl, rfl⟩
  | error failure => exact .inr ⟨_, rfl, rfl, rfl⟩

theorem EvalOutput.errors_ofResult
    (duration : Span)
    (result : Except Failure Decimal)
    (steps : Option (List TraceStep)) :
    ∀ diagnostic ∈ (ofResult duration result steps).diagnostics, diagnostic.severity = .error := by
  cases result with
  | ok value => exact List.forall_mem_nil _
  | error failure => exact List.forall_mem_singleton.mpr rfl

namespace Handled

variable
    {tool : Tool}
    {settings : Settings}
    {circumstances : Circumstances}
    {request : Text}
    {input : Option Json}

theorem consistent_refused
    {issues : List Issue}
    (rejected : EvalInput.ofJson? input = .error issues)
    {output : EvalOutput}
    (answer : output = .ofDiagnostic circumstances.duration
      (.schemaError (Issue.summary (text "input") issues)))
    (accepted : Schema.evalOutput.Keeps output.toJson) :
    Consistent (tool.record settings circumstances request output)
      tool settings circumstances request input := by
  subst answer
  exact {
    accepted := accepted
    outcome := .inr ⟨_, rfl, rfl, rfl⟩
    schemaError := iff_of_true rfl ⟨_, EvalInput.ofJson?_error_iff.mp rejected⟩
    internal := by
      apply iff_of_false
      · rintro ⟨⟩
      · rintro ⟨wanted, other, _⟩
        rw [rejected] at other
        cases other
    explained := by
      intro wanted other
      rw [rejected] at other
      cases other
    steps := by simp [EvalOutput.ofDiagnostic, EvalOutput.codes, Diagnostic.schemaError]
    duration := rfl
    audit := rfl }

theorem consistent_unusable
    {wanted : EvalInput}
    {problem : ArgumentError}
    (requested : EvalInput.ofJson? input = .ok wanted)
    (failed : (wanted.options settings.defaults).explain wanted.expression = .error problem)
    {output : EvalOutput}
    (answer : output = .ofDiagnostic circumstances.duration (.internal problem.message))
    (accepted : Schema.evalOutput.Keeps output.toJson) :
    Consistent (tool.record settings circumstances request output)
      tool settings circumstances request input := by
  subst answer
  exact {
    accepted := accepted
    outcome := .inr ⟨_, rfl, rfl, rfl⟩
    schemaError := iff_of_false nofun (EvalInput.not_read_error requested)
    internal := by
      have cause := EvalInput.explain_error_iff.mp ⟨_, failed⟩
      exact iff_of_true rfl ⟨wanted, requested, cause⟩
    explained := by
      intro other same
      exact ⟨EvalInput.stands_of_ofJson? same, fun notInternal => absurd rfl notInternal⟩
    steps := by simp [EvalOutput.ofDiagnostic, EvalOutput.codes, Diagnostic.internal]
    duration := rfl
    audit := rfl }

theorem consistent_explained
    {wanted : EvalInput}
    {explanation : Explanation}
    (requested : EvalInput.ofJson? input = .ok wanted)
    (explained : (wanted.options settings.defaults).explain wanted.expression = .ok explanation)
    {output : EvalOutput}
    (answer : output = .ofResult circumstances.duration explanation.result
      (if tool = .explain then some explanation.steps else none))
    (accepted : Schema.evalOutput.Keeps output.toJson) :
    Consistent (tool.record settings circumstances request output)
      tool settings circumstances request input := by
  subst answer
  have ordinary := EvalOutput.codes_ofResult_ne circumstances.duration explanation.result
    (if tool = .explain then some explanation.steps else none)
  have evaluated : (wanted.options settings.defaults).evaluate wanted.expression
      = .ok explanation.result := by
    rw [Options.evaluate_eq_explain, explained]
    rfl
  exact {
    accepted := accepted
    outcome := EvalOutput.outcome_ofResult _ _ _
    schemaError := iff_of_false ordinary.1 (EvalInput.not_read_error requested)
    internal := by
      apply iff_of_false ordinary.2
      rintro ⟨other, same, cause⟩
      rw [requested] at same
      cases same
      rcases EvalInput.explain_error_iff.mpr cause with ⟨problem, failed⟩
      rw [explained] at failed
      cases failed
    explained := by
      intro other same
      refine ⟨EvalInput.stands_of_ofJson? same, fun _ => ?_⟩
      rw [requested] at same
      cases same
      refine ⟨explanation, explained, evaluated, ?_, ?_, ?_⟩
      · intro value found
        rw [found]
        rfl
      · intro failure found
        rw [found]
        rfl
      · rintro rfl
        rw [Tool.output_record, if_pos rfl, EvalOutput.steps_ofResult]
    steps := by
      rw [Tool.output_record, EvalOutput.steps_ofResult]
      cases tool with
      | evaluate => simp
      | explain => simpa using ordinary
    duration := EvalOutput.duration_ofResult _ _ _
    audit := by
      rw [Tool.record, DiagnosticCounts.of_errors (EvalOutput.errors_ofResult _ _ _),
        EvalOutput.duration_ofResult] }

end Handled

/-- An answer, with what it leaves in the audit, is consistent. -/
theorem Tool.Answers.consistent
    {tool : Tool}
    {settings : Settings}
    {circumstances : Circumstances}
    {input : Option Json}
    {output : EvalOutput}
    (answers : tool.Answers settings circumstances.duration input output)
    (request : Text) :
    Handled.Consistent (tool.record settings circumstances request output)
      tool settings circumstances request input := by
  have accepted := answers.keeps_toJson
  cases answers with
  | refused rejected => exact Handled.consistent_refused rejected rfl accepted
  | unusable requested failed => exact Handled.consistent_unusable requested failed rfl accepted
  | explained requested explained =>
    exact Handled.consistent_explained requested explained rfl accepted

/-- Every request is handled, and what comes of it is consistent. -/
theorem handle_consistent
    (tool : Tool)
    (settings : Settings)
    (circumstances : Circumstances)
    (request : Text)
    (input : Option Json) :
    ∃ handled, tool.handle settings circumstances request input = .ok handled ∧
      handled.Consistent tool settings circumstances request input := by
  have answers := tool.answers_answer settings circumstances.duration input
  exact ⟨_, tool.handle_eq settings circumstances request input, answers.consistent request⟩

end InfixCalc
