import InfixCalc.Service.Circumstances
import InfixCalc.Trace

/-!
# Answers of the service

An answer holds a value or diagnostics, the steps where they were asked for,
and how long it took.
-/

namespace InfixCalc

/-- How serious a diagnostic is. -/
inductive Severity where
  | error
  | warning
  | info
  deriving DecidableEq, Repr

/-- The name of a severity. -/
def Severity.name : Severity → Text
  | error => text "error"
  | warning => text "warning"
  | info => text "info"

/-- What a diagnostic is about: an expression that has no value, or the request itself. -/
inductive DiagnosticCode where
  | failure (code : FailureCode)
  | schemaError
  | internal
  deriving DecidableEq, Repr

/-- The name of a code. -/
def DiagnosticCode.name : DiagnosticCode → Text
  | failure code => code.name
  | schemaError => text "schema_error"
  | internal => text "internal"

/-- One thing that is wrong with a request. -/
structure Diagnostic where
  code : DiagnosticCode
  message : Text
  position : Option Nat
  severity : Severity
  deriving DecidableEq, Repr

namespace Diagnostic

/-- The diagnostic of an expression that has no value. -/
def ofFailure (failure : Failure) : Diagnostic :=
  ⟨.failure failure.code, failure.message, failure.position?, .error⟩

/-- The diagnostic of a request that is not as it should be. -/
def schemaError (message : Text) : Diagnostic :=
  ⟨.schemaError, message, none, .error⟩

/-- The diagnostic of a request that cannot be carried out. -/
def internal (message : Text) : Diagnostic :=
  ⟨.internal, message, none, .error⟩

/-- A diagnostic as JSON. -/
def toJson (diagnostic : Diagnostic) : Json :=
  .object <|
    [(text "code", .string diagnostic.code.name), (text "message", .string diagnostic.message)]
      ++ (diagnostic.position.map fun position => (text "pos", Json.nat position)).toList
      ++ [(text "severity", .string diagnostic.severity.name)]

end Diagnostic

/-- Both stacks as members of a step. -/
def Snapshot.members (snapshot : Snapshot) : List (Text × Json) :=
  [(text "operands", .array (snapshot.operands.map .string)),
    (text "operators", .array (snapshot.operators.map .string))]

/-- A written step as JSON. -/
def TraceStep.toJson : TraceStep → Json
  | .shift token position after =>
    .object ([
      (text "kind", .literal "shift"),
      (text "token", .string token),
      (text "pos", .nat position)] ++ after.members)
  | .reduce symbol position left right result after =>
    .object ([
      (text "kind", .literal "reduce"),
      (text "op", .string symbol),
      (text "pos", .nat position),
      (text "left", .string left),
      (text "right", .string right),
      (text "result", .string result)] ++ after.members)

/-- The answer to a request. -/
structure EvalOutput where
  value : Option Text
  diagnostics : List Diagnostic
  steps : Option (List TraceStep)
  duration : Span
  deriving DecidableEq, Repr

namespace EvalOutput

/-- The answer to a request that the expression cannot be asked about. -/
def ofDiagnostic
    (duration : Span)
    (diagnostic : Diagnostic) :
    EvalOutput :=
  ⟨none, [diagnostic], none, duration⟩

/-- The answer that a result is, with steps where they were asked for. -/
def ofResult
    (duration : Span)
    (result : Except Failure Decimal)
    (steps : Option (List TraceStep)) :
    EvalOutput :=
  match result with
  | .ok value => ⟨some value.toText, [], steps, duration⟩
  | .error failure => ⟨none, [.ofFailure failure], steps, duration⟩

/-- Whether a diagnostic is an error. -/
def hasError (output : EvalOutput) : Bool :=
  output.diagnostics.any fun diagnostic => diagnostic.severity == .error

/-- An answer as JSON. -/
def toJson (output : EvalOutput) : Json :=
  .object <|
    [(text "value", (output.value.map Json.string).getD .null),
      (text "diagnostics", .array (output.diagnostics.map Diagnostic.toJson))]
      ++ (output.steps.map fun steps =>
        (text "steps", Json.array (steps.map TraceStep.toJson))).toList
      ++ [(text "perf", .object [(text "durationMs", .int output.duration.milliseconds)])]

end EvalOutput

end InfixCalc
