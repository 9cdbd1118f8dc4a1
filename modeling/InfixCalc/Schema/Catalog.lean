import InfixCalc.Failure
import InfixCalc.Schema
import InfixCalc.Token.Lexer

/-!
# The schemas of the service

What requests, answers, environments and fixtures look like.
-/

namespace InfixCalc.Schema

/-- The longest expression that a request may hold, in code units. -/
def longestExpression : Nat := 10000

/-- The codes of diagnostics that are no failure of an expression. -/
def serviceCodes : List Text := [text "schema_error", text "internal"]

/-- The severities of diagnostics. -/
def severities : List Text := [text "error", text "warning", text "info"]

/-- The ways in which the service can be offered. -/
def serviceModes : List Text := [text "mcp", text "http", text "both"]

/-- A whole number of digits, from 1 to 1000. -/
def digitRule : NumberRule :=
  { integer := true, minimum := some 1, maximum := some 1000 }

/-- The name of a reader. -/
def lexerMode : Schema :=
  choice (LexerMode.all.map LexerMode.name)

/-- The name of a rounding mode. -/
def roundingMode : Schema :=
  choice (RoundingMode.all.map RoundingMode.name)

/-- The options of a request, each of which may be left out. -/
def evalOptions : Schema :=
  record [
    (text "lexer", optional lexerMode),
    (text "precision", optional (number digitRule)),
    (text "rounding", optional roundingMode)]

/-- A request. -/
def evalInput : Schema :=
  record [
    (text "expr", string (some longestExpression)),
    (text "options", optional evalOptions)]

/-- The parameters of a tool: a request whose expression may be of any length. -/
def toolParameters : Schema :=
  record [
    (text "expr", string none),
    (text "options", optional evalOptions)]

/-- The code of a diagnostic. -/
def diagnosticCode : Schema :=
  choices [FailureCode.all.map FailureCode.name, serviceCodes]

/-- A diagnostic. -/
def diagnostic : Schema :=
  record [
    (text "code", diagnosticCode),
    (text "message", string none),
    (text "pos", optional (number { integer := true, minimum := some 0 })),
    (text "severity", choice severities)]

/-- The fields of both stacks. -/
def snapshotFields : List (Text × Schema) :=
  [(text "operands", array (string none)), (text "operators", array (string none))]

/-- A written step. -/
def traceStep : Schema :=
  tagged (text "kind") [
    (text "shift", record ([
      (text "token", string none),
      (text "pos", number {})] ++ snapshotFields)),
    (text "reduce", record ([
      (text "op", choice (Operator.all.map Operator.toText)),
      (text "pos", number {}),
      (text "left", string none),
      (text "right", string none),
      (text "result", string none)] ++ snapshotFields))]

/-- An answer. -/
def evalOutput : Schema :=
  record [
    (text "value", nullable (string none)),
    (text "diagnostics", array diagnostic),
    (text "steps", optional (array traceStep)),
    (text "perf", record [(text "durationMs", number {})])]

/-- The variables that configure the service, each with a default. -/
def environment : Schema :=
  record [
    (text "MODE", withDefault (choice serviceModes) (.literal "both")),
    (text "PORT",
      withDefault
        (number { coerced := true, integer := true, minimum := some 0, maximum := some 65535 })
        (.nat 3001)),
    (text "STACKCALC_LEXER", withDefault lexerMode (.string LexerMode.whitespace.name)),
    (text "STACKCALC_PRECISION",
      withDefault (number { digitRule with coerced := true }) (.nat Context.standardPrecision)),
    (text "STACKCALC_ROUNDING",
      withDefault roundingMode (.string RoundingMode.standard.name)),
    (text "STACKCALC_AUDIT",
      withDefault (choice [text "0", text "1"]) (.literal "1"))]

/-- The values of command-line flags. -/
def flags : Schema :=
  record [
    (text "lexer", optional lexerMode),
    (text "precision", optional (number { digitRule with coerced := true })),
    (text "rounding", optional roundingMode)]

/-- One expression with the value or the failure that it is to have. -/
def fixture : Schema :=
  record [
    (text "name", string none),
    (text "expr", string none),
    (text "value", optional (string none)),
    (text "error", optional (choice (FailureCode.all.map FailureCode.name))),
    (text "options", optional evalOptions)]

/-- A file of fixtures. -/
def fixtures : Schema :=
  array fixture

/-- The schemas that can be asked for by name. -/
def ofName? (name : Text) : Option Schema :=
  [(text "LexerMode", lexerMode), (text "RoundingMode", roundingMode),
    (text "EvalOptions", evalOptions), (text "EvalInput", evalInput),
    (text "DiagnosticCode", diagnosticCode), (text "Diagnostic", diagnostic),
    (text "TraceStep", traceStep), (text "EvalOutput", evalOutput),
    (text "Env", environment)].lookup name

end InfixCalc.Schema
