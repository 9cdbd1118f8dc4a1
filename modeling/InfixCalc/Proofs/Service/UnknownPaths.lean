import InfixCalc.Proofs.Service.Routes

/-!
# Paths that lead nowhere

A path that no tool is offered under is answered with the status 404, and the audit has
nothing of it, whatever the rest of the request says.  The table of endpoints is a record,
however, and the names that every record answers to are found in it as if they were paths:
a request that is posted to one of them gets another answer, or none at all.
-/

namespace InfixCalc

/-! ## Endpoints that no one put into the table -/

namespace Endpoint

/-- An endpoint that no one put into the table leaves nothing in the audit. -/
theorem audit_of_ne_tool
    {endpoint : Endpoint}
    (inherent : endpoint = .payload ∨ endpoint = .failing)
    {settings : Settings}
    {circumstances : Circumstances}
    {request : Text}
    {payload : Json}
    {routed : Routed}
    (answered : endpoint.respond settings circumstances request payload = .ok routed) :
    routed.audit = [] := by
  rcases inherent with rfl | rfl
  · rw [respond] at answered
    split at answered
    · cases answered
      rfl
    · cases answered
  · cases answered

end Endpoint

/-! ## Requests for paths that the service does not have -/

/-- The request is for no tool, and not for the address that tells whether the service is alive. -/
structure RouteRequest.Unknown (request : RouteRequest) : Prop where
  noTool : ∀ tool : Tool, request.path ≠ tool.webPath
  noHealth : ¬ (request.path = text "/health" ∧ request.method = text "GET")

theorem RouteRequest.Unknown.not_health
    {request : RouteRequest}
    (unknown : request.Unknown) :
    ¬ (request.path == text "/health" && request.method == text "GET") = true := by
  simpa using unknown.noHealth

section

variable
    (settings : Settings)
    (circumstances : Circumstances)
    {request : RouteRequest}
    (unknown : request.Unknown)

include unknown

/-- Unless it is posted to a name that every record answers to, nothing is found. -/
theorem route_notFound_of_unknown
    (harmless : request.path ∉ Inherent.names ∨ request.method ≠ text "POST") :
    route settings circumstances request = .ok ⟨.notFound, []⟩ := by
  rw [route, if_neg unknown.not_health]
  cases leads : Endpoint.ofPath? request.path with
  | none => rfl
  | some endpoint =>
    have named : request.path ∈ Inherent.names := by
      by_contra unnamed
      rw [Endpoint.ofPath?_eq_none_iff.mpr ⟨unknown.noTool, unnamed⟩] at leads
      cases leads
    have notPosted : request.method ≠ text "POST" := harmless.resolve_left (not_not_intro named)
    exact if_pos (bne_iff_ne.mpr notPosted)

/-- What is posted to a name that every record answers to is never said not to be found. -/
theorem route_of_posted_to_name
    (named : request.path ∈ Inherent.names)
    (posted : request.method = text "POST")
    {routed : Routed}
    (answered : route settings circumstances request = .ok routed) :
    routed.response.status ≠ 404 ∧ routed.audit = [] := by
  obtain ⟨endpoint, leads, inherent⟩ :
      ∃ endpoint, Endpoint.ofPath? request.path = some endpoint ∧
        (endpoint = .payload ∨ endpoint = .failing) := by
    rcases Endpoint.ofPath?_of_mem_names named with leads | leads
    · exact ⟨.payload, leads, .inl rfl⟩
    · exact ⟨.failing, leads, .inr rfl⟩
  rw [route, if_neg unknown.not_health, leads] at answered
  simp only [posted, bne_self_eq_false, Bool.false_eq_true, if_false] at answered
  split at answered
  · cases answered
    exact ⟨by decide, rfl⟩
  · split at answered
    · cases answered
      exact ⟨(by decide : 400 ≠ 404), rfl⟩
    · refine ⟨?_, Endpoint.audit_of_ne_tool inherent answered⟩
      intro notFound
      have found := Endpoint.status_of_respond answered
      rw [notFound] at found
      exact absurd found (by decide)

/--
A request for a path that the service does not have is answered with the status 404, just
if it is not posted to a name that every record answers to.  It leaves nothing in the audit.
-/
theorem unknown_path_not_found :
    (request.path ∉ Inherent.names ∨ request.method ≠ text "POST" →
        route settings circumstances request = .ok ⟨.notFound, []⟩ ∧
          Response.notFound.status = 404) ∧
      (request.path ∈ Inherent.names → request.method = text "POST" →
        ∀ routed, route settings circumstances request = .ok routed →
          routed.response.status ≠ 404 ∧ routed.audit = []) :=
  ⟨fun harmless => ⟨route_notFound_of_unknown settings circumstances unknown harmless, rfl⟩,
    fun named posted _ answered =>
      route_of_posted_to_name settings circumstances unknown named posted answered⟩

end

/-- A path that only looks like one of the names, with all that a tool asks of a request. -/
theorem unknown_path_not_found_slash :
    let request : RouteRequest := {
      method := text "POST"
      path := text "/constructor"
      contentType := some (text "application/json")
      body := text "\x7b\x7d"
      request := text "first" }
    request.Unknown ∧ request.path ∉ Inherent.names ∧
      route .standard .atEpoch request = .ok ⟨.notFound, []⟩ ∧ Response.notFound.status = 404 := by
  intro request
  have unknown : request.Unknown := ⟨by rintro (_ | _) <;> decide, by decide⟩
  have unnamed : request.path ∉ Inherent.names := by decide
  exact ⟨unknown, unnamed, (unknown_path_not_found .standard .atEpoch unknown).1 (.inl unnamed)⟩

/-- The name `toString` is found in the table, and what it leads to fails on every payload. -/
theorem inherent_path_unanswered :
    ¬ ∀ (settings : Settings) (circumstances : Circumstances) (request : RouteRequest),
      request.Unknown →
        ∃ routed, route settings circumstances request = .ok routed ∧
          routed.response.status = 404 ∧ routed.audit = [] := by
  intro answered
  have unknown : RouteRequest.Unknown
      ⟨text "POST", text "toString", some (text "application/json"), text "\x7b\x7d",
        text "first"⟩ :=
    ⟨by rintro (_ | _) <;> decide, by decide⟩
  rcases answered .standard .atEpoch _ unknown with ⟨routed, response, _⟩
  have parsed : (Json.parse? (text "\x7b\x7d")).isSome := by decide
  rcases Option.isSome_iff_exists.mp parsed with ⟨payload, isPayload⟩
  have leads : Endpoint.ofPath? (text "toString") = some .failing := by decide
  have json : isJsonContentType (some (text "application/json")) = true := by decide
  rw [route, if_neg unknown.not_health, leads] at response
  simp only [bne_self_eq_false, Bool.false_eq_true, if_false, json, Bool.not_true, Json.parse,
    isPayload] at response
  cases response

end InfixCalc
