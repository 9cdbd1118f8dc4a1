import InfixCalc.Json.Printer
import InfixCalc.Service.Output
import InfixCalc.Service.Tally
import InfixCalc.Settings

/-!
# Handling requests

A handler answers every request, whatever JSON value it is.  What the schema
refuses, what cannot be computed with and what has no value all come back as
diagnostics.  Each answer has to pass the schema of answers before it is given,
and then leaves one audit entry if the settings ask for them.
-/

namespace InfixCalc

/-- What a request can ask for: a value, or a value with all steps. -/
inductive Tool where
  | evaluate
  | explain
  deriving DecidableEq, Repr

/-- The name of a tool. -/
def Tool.name : Tool → Text
  | evaluate => text "evaluate"
  | explain => text "explain"

/-- How many diagnostics there are of each severity. -/
structure DiagnosticCounts where
  errors : Nat
  warnings : Nat
  infos : Nat
  deriving DecidableEq, Repr

namespace DiagnosticCounts

/-- Count diagnostics. -/
def of (diagnostics : List Diagnostic) : DiagnosticCounts where
  errors := diagnostics.countP fun diagnostic => diagnostic.severity == .error
  warnings := diagnostics.countP fun diagnostic => diagnostic.severity == .warning
  infos := diagnostics.countP fun diagnostic => diagnostic.severity == .info

/-- The count of each severity by its name. -/
def tallies (counts : DiagnosticCounts) : Tallies :=
  [(text "error", .count counts.errors),
    (text "warning", .count counts.warnings),
    (text "info", .count counts.infos)]

end DiagnosticCounts

/-- One line of the audit. -/
structure AuditEntry where
  time : Text
  request : Text
  tool : Tool
  duration : Span
  counts : DiagnosticCounts
  deriving DecidableEq, Repr

namespace AuditEntry

/-- An audit entry as JSON. -/
def toJson (entry : AuditEntry) : Json :=
  .object [
    (text "ts", .string entry.time),
    (text "reqId", .string entry.request),
    (text "tool", .string entry.tool.name),
    (text "durationMs", .int entry.duration.milliseconds),
    (text "diagCounts", entry.counts.tallies.toJson)]

/-- The line that an audit entry is written in. -/
def toLine (entry : AuditEntry) : Text :=
  text "[AUDIT] " ++ entry.toJson.compact

end AuditEntry

/-- A request that the schema has accepted. -/
structure EvalInput where
  expression : Text
  lexer : Option LexerMode
  precision : Option Double
  rounding : Option RoundingMode
  deriving DecidableEq, Repr

namespace EvalInput

/-- The request of data that the schema has accepted. -/
def ofData (data : Json) : EvalInput :=
  let options := (data.get? (text "options")).getD .null
  { expression := ((data.get? (text "expr")).bind Json.text?).getD []
    lexer := ((options.get? (text "lexer")).bind Json.text?).bind LexerMode.ofName?
    precision := (options.get? (text "precision")).bind Json.number?
    rounding := ((options.get? (text "rounding")).bind Json.text?).bind RoundingMode.ofName? }

/-- The request that a value is, or what is wrong with it; a value that is missing is wrong. -/
def ofJson? (value : Option Json) : Except (List Issue) EvalInput :=
  (Schema.evalInput.read value).map fun data => ofData (data.getD .null)

/-- The options of a request, defaults filling in what it leaves open. -/
def options
    (input : EvalInput)
    (defaults : Defaults) :
    Options where
  lexer := input.lexer.getD defaults.lexer
  context :=
    Context.ofGiven?
      ((input.precision.map Precision.number).getD defaults.precision)
      ((input.rounding.map Rounding.mode).getD defaults.rounding)

end EvalInput

/-- The answer of a tool to a request that the schema has accepted. -/
def Tool.perform
    (tool : Tool)
    (duration : Span)
    (options : Options)
    (expression : Text) :
    EvalOutput :=
  match tool with
  | evaluate =>
    match options.evaluate expression with
    | .ok result => .ofResult duration result none
    | .error problem => .ofDiagnostic duration (.internal problem.message)
  | explain =>
    match options.explain expression with
    | .ok explanation => .ofResult duration explanation.result (some explanation.steps)
    | .error problem => .ofDiagnostic duration (.internal problem.message)

/-- The answer of a tool to any value, even a missing one. -/
def Tool.answer
    (tool : Tool)
    (settings : Settings)
    (duration : Span)
    (input : Option Json) :
    EvalOutput :=
  match EvalInput.ofJson? input with
  | .ok request => tool.perform duration (request.options settings.defaults) request.expression
  | .error issues => .ofDiagnostic duration (.schemaError (Issue.summary (text "input") issues))

/-- An answer and the audit entries that it left. -/
structure Handled where
  output : EvalOutput
  audit : List AuditEntry
  deriving DecidableEq, Repr

/-- The answer, if the schema accepts it. -/
def EvalOutput.checked? (output : EvalOutput) : Except (List Issue) EvalOutput :=
  (Schema.evalOutput.read (some output.toJson)).map fun _ => output

/-- An answer with the entry that it leaves in the audit, if the settings ask for it. -/
def Tool.record
    (tool : Tool)
    (settings : Settings)
    (circumstances : Circumstances)
    (request : Text)
    (output : EvalOutput) :
    Handled where
  output := output
  audit :=
    if settings.audit then
      [⟨circumstances.time, request, tool, output.duration, .of output.diagnostics⟩]
    else []

/-- Handle one request. -/
def Tool.handle
    (tool : Tool)
    (settings : Settings)
    (circumstances : Circumstances)
    (request : Text)
    (input : Option Json) :
    Except (List Issue) Handled :=
  (tool.answer settings circumstances.duration input).checked?.map
    (tool.record settings circumstances request)

end InfixCalc
