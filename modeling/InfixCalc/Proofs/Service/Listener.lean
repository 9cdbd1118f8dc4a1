import InfixCalc.Proofs.Double.Numeral
import InfixCalc.Proofs.Service.Bodies
import InfixCalc.Proofs.Service.Routes
import InfixCalc.Proofs.Url.Rooted
import InfixCalc.Service.Listener

/-!
# How web requests are answered

The size of the body decides first, then whether the stream breaks, and only then
the path, the method, the content type and the body.  Where the path begins with a
slash this is a complete account: there is one response, and what it says agrees with
what the audit holds.

A request is answered just if its address has a path.  Behind a single slash there always
is one; two slashes are enough for there to be none.
-/

namespace InfixCalc

/-! ## Bodies -/

/-- What has been received is more than the service takes, whatever comes later. -/
def BodyStream.Overflows (stream : BodyStream) : Prop :=
  ∃ received, received <+: stream.portions ∧ Body.greatestSize < received.flatten.length

namespace Body

theorem exceeds_greatestSize_iff
    {stream : BodyStream} :
    exceeds (.ofNat greatestSize) 0 stream.portions ↔ stream.Overflows := by
  have limit {size : Nat} : (Double.ofNat greatestSize).AtLeast size ↔ size ≤ greatestSize :=
    Double.AtLeast.ofNat_iff (by decide)
  rw [← not_iff_not, Bool.not_eq_true, exceeds_eq_false_iff (limit.mpr (Nat.zero_le _)), limit,
    Nat.zero_add]
  constructor
  · rintro fits ⟨received, ⟨later, whole⟩, more⟩
    rw [← whole, List.flatten_append, List.length_append] at fits
    omega
  · intro fits
    by_contra more
    exact fits ⟨_, List.prefix_rfl, Nat.lt_of_not_le more⟩

end Body

/-! ## Responses -/

namespace Exchange

end Exchange

/-- What is routed of a request once its path and its body are known. -/
def WebRequest.routeRequest
    (request : WebRequest)
    (identifier path : Text) :
    RouteRequest where
  method := request.method
  path := path
  contentType := request.contentType
  body := Text.Utf8.decode request.stream.portions.flatten
  request := identifier

section

variable
    (settings : Settings)
    (circumstances : Circumstances)
    (identifier : Text)
    {request : WebRequest}
    {path : Text}
    (resolved : Url.path? request.address = some path)

include resolved

theorem listen_of_overflows (overflows : request.stream.Overflows) :
    listen settings circumstances identifier request
      = .ok (.tooLarge (.ofNat Body.greatestSize)) := by
  simp [listen, resolved, Body.read, Body.exceeds_greatestSize_iff.mpr overflows]

theorem listen_of_broken
    (fits : ¬ request.stream.Overflows)
    (broken : request.stream.broken = true) :
    listen settings circumstances identifier request = .ok .failed := by
  rw [← Body.exceeds_greatestSize_iff, Bool.not_eq_true] at fits
  simp [listen, resolved, Body.read, fits, broken]

theorem listen_of_complete
    (fits : ¬ request.stream.Overflows)
    (complete : request.stream.broken = false) :
    listen settings circumstances identifier request
      = .ok (.ofRouted (route settings circumstances (request.routeRequest identifier path))) := by
  rw [← Body.exceeds_greatestSize_iff, Bool.not_eq_true] at fits
  simp [listen, resolved, Body.read, fits, complete, WebRequest.routeRequest]

end

namespace Exchange

variable
    {settings : Settings}
    {circumstances : Circumstances}
    {identifier : Text}
    {request : WebRequest}
    {path : Text}

end Exchange

/-- What goes out for a request that was routed has the status of the response, or 500. -/
theorem Exchange.status_ofRouted
    (settings : Settings)
    (circumstances : Circumstances)
    (request : RouteRequest) :
    (ofRouted (route settings circumstances request)).response.status
      ∈ [200, 400, 404, 415, 500] := by
  cases answered : route settings circumstances request with
  | error problem => exact List.mem_of_elem_eq_true rfl
  | ok routed => exact List.mem_append_left [500] (status_of_route answered)

/-- A request whose address has a path is answered, whatever the path leads to. -/
theorem listen_resolved
    (settings : Settings)
    (circumstances : Circumstances)
    (identifier : Text)
    {request : WebRequest}
    {path : Text}
    (resolved : Url.path? request.address = some path) :
    ∃ exchange, listen settings circumstances identifier request = .ok exchange ∧
      exchange.response.status ∈ [200, 400, 404, 413, 415, 500] := by
  by_cases overflows : request.stream.Overflows
  · exact ⟨_, listen_of_overflows settings circumstances identifier resolved overflows, by decide⟩
  · cases broken : request.stream.broken with
    | true =>
      exact ⟨_, listen_of_broken settings circumstances identifier resolved overflows broken,
        by decide⟩
    | false =>
      refine ⟨_, listen_of_complete settings circumstances identifier resolved overflows broken, ?_⟩
      have included : [200, 400, 404, 415, 500] ⊆ [200, 400, 404, 413, 415, 500] := by decide
      exact included (Exchange.status_ofRouted settings circumstances _)

/--
A request is answered just if its address has a path, and then with one of six statuses.
Every address that begins with a single slash has a path.
-/
theorem request_answered_iff
    (settings : Settings)
    (circumstances : Circumstances)
    (identifier : Text)
    (request : WebRequest) :
    ((∃ path, Url.path? request.address = some path) ↔
        ∃ exchange, listen settings circumstances identifier request = .ok exchange ∧
          exchange.response.status ∈ [200, 400, 404, 413, 415, 500]) ∧
      (Url.Rooted request.address →
        ∃ exchange, listen settings circumstances identifier request = .ok exchange ∧
          exchange.response.status ∈ [200, 400, 404, 413, 415, 500]) := by
  refine ⟨⟨?_, ?_⟩, ?_⟩
  · rintro ⟨path, resolved⟩
    exact listen_resolved settings circumstances identifier resolved
  · rintro ⟨exchange, answered, _⟩
    cases resolved : Url.path? request.address with
    | none =>
      rw [listen, resolved] at answered
      cases answered
    | some path => exact ⟨path, rfl⟩
  · intro rooted
    rcases Url.path?_of_rooted rooted with ⟨path, resolved, _⟩
    exact listen_resolved settings circumstances identifier resolved

/--
An address of two units, the second of which begins the query, and an address that brings
a scheme of its own, the path of which is a name that every record answers to.
-/
theorem request_answered_iff_query :
    let brief : WebRequest := ⟨text "GET", text "/?", none, ⟨[], true⟩⟩
    let named : WebRequest := ⟨text "POST", text "x:toString", none, ⟨[], false⟩⟩
    Url.Rooted brief.address ∧ Url.path? named.address = some (text "toString") ∧
      (∃ exchange, listen .standard .atEpoch (text "first") brief = .ok exchange ∧
        exchange.response.status ∈ [200, 400, 404, 413, 415, 500]) ∧
      ∃ exchange, listen .standard .atEpoch (text "second") named = .ok exchange ∧
        exchange.response.status ∈ [200, 400, 404, 413, 415, 500] := by
  intro brief named
  have rooted : Url.Rooted brief.address := by
    refine ⟨text "?", by decide, ?_⟩
    rintro unit ⟨⟩
    rfl
  have resolved : Url.path? named.address = some (text "toString") := by decide
  exact ⟨rooted, resolved,
    (request_answered_iff .standard .atEpoch (text "first") brief).2 rooted,
    (request_answered_iff .standard .atEpoch (text "second") named).1.mp ⟨_, resolved⟩⟩

/-- Two slashes announce a host, and without one there is no response at all. -/
theorem two_slashes_unanswered :
    ¬ ∀ request : WebRequest,
      ∃ exchange, listen .standard .atEpoch (text "first") request = .ok exchange := by
  intro answered
  rcases answered ⟨text "GET", text "//", none, ⟨[], false⟩⟩ with ⟨exchange, response⟩
  have malformed : Url.path? (text "//") = none := by decide
  rw [listen, malformed] at response
  cases response

end InfixCalc
