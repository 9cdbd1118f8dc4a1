import InfixCalc.Json.Printer
import InfixCalc.Service.Body
import InfixCalc.Service.Route
import InfixCalc.Url

/-!
# Answering web requests

The listener reads the body, however long the list of portions is, before it
looks at the path.  A body that is too large, and a stream that breaks, have
responses of their own.  An address without a path is not answered at all.
-/

namespace InfixCalc

/-- A request as it comes in. -/
structure WebRequest where
  method : Text
  address : Text
  contentType : Option Text
  stream : BodyStream
  deriving DecidableEq, Repr

/-- A line of the log. -/
inductive LogLine where
  | audit (entry : AuditEntry)
  | failed
  deriving DecidableEq, Repr

/-- A response as it goes out, and the lines that it left in the log. -/
structure Exchange where
  response : Response
  closesConnection : Bool
  log : List LogLine
  deriving Repr

/-- The content type of every response. -/
def responseContentType : Text := text "application/json"

/-- The address of a request has no path. -/
inductive AddressError where
  | malformed
  deriving DecidableEq, Repr

namespace Exchange

/-- The response to a body that is too large. -/
def tooLarge (limit : Double) : Exchange :=
  ⟨.refusal 413 (BodyError.tooLargeMessage limit), true, []⟩

/-- The response to a request that broke. -/
def failed : Exchange :=
  ⟨⟨500, .object [(text "error", .literal "internal")]⟩, false, [.failed]⟩

/-- What goes out for a request that was routed. -/
def ofRouted : Except RouteError Routed → Exchange
  | .ok routed => ⟨routed.response, false, routed.audit.map .audit⟩
  | .error _ => failed

/-- The text of the body: over several lines, except for a request that broke. -/
def bodyText (exchange : Exchange) : Text :=
  if exchange.response.status == 500 then exchange.response.body.compact
  else exchange.response.body.pretty

end Exchange

/-- Answer a web request; `identifier` is what the audit calls it. -/
def listen
    (settings : Settings)
    (circumstances : Circumstances)
    (identifier : Text)
    (request : WebRequest) :
    Except AddressError Exchange :=
  match Url.path? request.address with
  | none => .error .malformed
  | some path =>
    .ok <|
      match Body.read (.ofNat Body.greatestSize) request.stream with
      | .error (.tooLarge limit) => .tooLarge limit
      | .error .broken => .failed
      | .ok body =>
        .ofRouted <| route settings circumstances {
          method := request.method
          path := path
          contentType := request.contentType
          body := body
          request := identifier }

end InfixCalc
