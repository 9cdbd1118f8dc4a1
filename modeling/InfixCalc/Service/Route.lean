import InfixCalc.Inherent
import InfixCalc.Json.Reader
import InfixCalc.Service.Handler

/-!
# Routing

A request is answered by its path and method: one address tells that the
service is alive, two belong to the tools, and all others are unknown.

The table of endpoints is a record, and a record answers to some names that no
one put there.  They are no paths of the web, but a link with a scheme of its
own can have one.  The name `constructor` hands the payload back as if it were
an answer, the others fail.
-/

namespace InfixCalc

/-- What a request consists of when its body has been read. -/
structure RouteRequest where
  method : Text
  path : Text
  contentType : Option Text
  body : Text
  request : Text
  deriving DecidableEq, Repr

/-- A status and a body. -/
structure Response where
  status : Nat
  body : Json
  deriving Repr

/-- A response and the audit entries that it left. -/
structure Routed where
  response : Response
  audit : List AuditEntry
  deriving Repr

/-- What a path leads to. -/
inductive Endpoint where
  | tool (chosen : Tool)
  /-- Hands the payload back. -/
  | payload
  /-- Fails whatever the payload is. -/
  | failing
  deriving DecidableEq, Repr

namespace Endpoint

/-- The names that every record answers to and that fail. -/
def failingNames : List Text :=
  Inherent.commonName :: Inherent.functionNames

/-- What a path leads to. -/
def ofPath? (path : Text) : Option Endpoint :=
  if path == text "/v1/evaluate" then some (tool .evaluate)
  else if path == text "/v1/explain" then some (tool .explain)
  else if path == Inherent.makerName then some payload
  else if failingNames.contains path then some failing
  else none

end Endpoint

/-- A request that broke the service. -/
inductive RouteError where
  | broken
  deriving DecidableEq, Repr

namespace Response

/-- The response to an address that leads nowhere. -/
def notFound : Response :=
  ⟨404, .object [(text "error", .literal "Not found")]⟩

/-- The response to a request that is not handled, which takes no time. -/
def refusal
    (status : Nat)
    (message : Text) :
    Response :=
  ⟨status, (EvalOutput.ofDiagnostic .none (.schemaError message)).toJson⟩

/-- The response that an answer is. -/
def ofOutput (output : EvalOutput) : Response :=
  ⟨if output.hasError then 400 else 200, output.toJson⟩

/-- The version of the service. -/
def version : Text := text "0.1.0"

/-- The response of a service that has been running for some time. -/
def healthy (running : Span) : Response :=
  ⟨200, .object [
    (text "status", .literal "ok"),
    (text "version", .string version),
    (text "uptimeSec", .int running.seconds)]⟩

/--
Whether the first diagnostics up to an error can be looked at; a diagnostic that
is `null` cannot.  The answer is whether there is an error.
-/
def anyError? : List Json → Option Bool
  | [] => some false
  | .null :: _ => none
  | diagnostic :: rest =>
    if (diagnostic.get? (text "severity")).bind Json.text? == some (text "error") then some true
    else anyError? rest

/-- The response that a payload is when it is taken for an answer. -/
def ofPayload? (payload : Json) : Option Response :=
  match payload.get? (text "diagnostics") with
  | some (.array diagnostics) =>
    (anyError? diagnostics).map fun error => ⟨if error then 400 else 200, payload⟩
  | _ => none

end Response

/-- The message for a body that is no JSON, with what is said about it. -/
def invalidBodyMessage (said : Text) : Text :=
  text "Invalid JSON body: " ++ said

/-- The message for a body that is not said to be JSON. -/
def contentTypeMessage : Text :=
  text "Content-Type must be application/json"

/-- Whether a content type names JSON. -/
def isJsonContentType (contentType : Option Text) : Bool :=
  match contentType with
  | none => false
  | some contentType => contentType.contains (text "application/json")

/-- The response of an endpoint to a payload. -/
def Endpoint.respond
    (endpoint : Endpoint)
    (settings : Settings)
    (circumstances : Circumstances)
    (request : Text)
    (payload : Json) :
    Except RouteError Routed :=
  match endpoint with
  | .tool chosen =>
    match chosen.handle settings circumstances request (some payload) with
    | .ok handled => .ok ⟨.ofOutput handled.output, handled.audit⟩
    | .error _ => .error .broken
  | .payload =>
    match Response.ofPayload? payload with
    | some response => .ok ⟨response, []⟩
    | none => .error .broken
  | .failing => .error .broken

/-- Answer one request. -/
def route
    (settings : Settings)
    (circumstances : Circumstances)
    (request : RouteRequest) :
    Except RouteError Routed :=
  if request.path == text "/health" && request.method == text "GET" then
    .ok ⟨.healthy circumstances.running, []⟩
  else
    match Endpoint.ofPath? request.path with
    | none => .ok ⟨.notFound, []⟩
    | some endpoint =>
      if request.method != text "POST" then
        .ok ⟨.notFound, []⟩
      else if !isJsonContentType request.contentType then
        .ok ⟨.refusal 415 contentTypeMessage, []⟩
      else
        match Json.parse circumstances.complaint request.body with
        | .error said => .ok ⟨.refusal 400 (invalidBodyMessage said), []⟩
        | .ok payload => endpoint.respond settings circumstances request.request payload

end InfixCalc
