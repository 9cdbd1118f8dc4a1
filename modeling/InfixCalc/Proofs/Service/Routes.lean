import InfixCalc.Proofs.Service.Handler
import InfixCalc.Service.Route

/-!
# What routing answers

A path that begins with a slash leads to a tool or nowhere, so that routing it always
answers.  Every response on the way to a tool has a body that the schema of answers
keeps, and its status says whether there is a value.
-/

namespace InfixCalc

/-- The path that a tool is offered under. -/
def Tool.webPath : Tool → Text
  | .evaluate => text "/v1/evaluate"
  | .explain => text "/v1/explain"

/-! ## Responses that are answers -/

section

variable (output : EvalOutput)

theorem EvalOutput.get?_value :
    output.toJson.get? (text "value") = some ((output.value.map Json.string).getD .null) := by
  cases steps : output.steps <;> simp [toJson, steps] <;> rfl

theorem EvalOutput.get?_diagnostics :
    output.toJson.get? (text "diagnostics")
      = some (.array (output.diagnostics.map Diagnostic.toJson)) := by
  cases steps : output.steps <;> simp [toJson, steps] <;> rfl

end

/-- An answer has a value, or else a single diagnostic, which is an error. -/
theorem Tool.Answers.outcome
    {tool : Tool}
    {settings : Settings}
    {circumstances : Circumstances}
    {input : Option Json}
    {output : EvalOutput}
    (answers : tool.Answers settings circumstances.duration input output) :
    (∃ value, output.value = some value ∧ output.diagnostics = []) ∨
      ∃ diagnostic, output.value = none ∧
        output.diagnostics = [diagnostic] ∧ diagnostic.severity = .error :=
  (answers.consistent []).outcome

theorem Endpoint.ofPath?_webPath (tool : Tool) :
    ofPath? tool.webPath = some (.tool tool) := by
  cases tool <;> decide

/-- All names that every record answers to. -/
def Inherent.names : List Text :=
  makerName :: Endpoint.failingNames

/-- The name that makes records leads to the payload, and the other names fail. -/
theorem Endpoint.ofPath?_of_mem_names
    {path : Text}
    (named : path ∈ Inherent.names) :
    ofPath? path = some .payload ∨ ofPath? path = some .failing := by
  have maker : ofPath? Inherent.makerName = some .payload := by decide
  have others : failingNames.all fun name => ofPath? name == some .failing := by decide
  rcases List.mem_cons.mp named with rfl | failing
  · exact .inl maker
  · exact .inr (eq_of_beq (List.all_eq_true.mp others path failing))

/-- A path leads nowhere just if it is no tool's and no name of every record. -/
theorem Endpoint.ofPath?_eq_none_iff
    {path : Text} :
    ofPath? path = none ↔ (∀ tool : Tool, path ≠ tool.webPath) ∧ path ∉ Inherent.names := by
  constructor
  · intro nowhere
    constructor
    · rintro tool rfl
      rw [ofPath?_webPath] at nowhere
      cases nowhere
    · intro named
      rcases ofPath?_of_mem_names named with leads | leads
      · rw [nowhere] at leads
        cases leads
      · rw [nowhere] at leads
        cases leads
  · rintro ⟨noTool, unnamed⟩
    have noMaker : path ≠ Inherent.makerName := List.ne_of_not_mem_cons unnamed
    have noFailing : path ∉ failingNames := List.not_mem_of_not_mem_cons unnamed
    have noEvaluate : path ≠ text "/v1/evaluate" := noTool .evaluate
    have noExplain : path ≠ text "/v1/explain" := noTool .explain
    simp [ofPath?, noEvaluate, noExplain, noMaker, noFailing]

/-- A tool answers with what it has handled, and nothing breaks. -/
theorem Endpoint.respond_tool
    (tool : Tool)
    (settings : Settings)
    (circumstances : Circumstances)
    (request : Text)
    (payload : Json) :
    let output := tool.answer settings circumstances.duration (some payload)
    (Endpoint.tool tool).respond settings circumstances request payload
      = .ok ⟨.ofOutput output, (tool.record settings circumstances request output).audit⟩ := by
  simp only [respond, Tool.handle_eq, Tool.output_record]

/-! ## Statuses -/

theorem Response.status_ofOutput (output : EvalOutput) :
    (ofOutput output).status = 200 ∨ (ofOutput output).status = 400 := by
  rw [ofOutput]
  cases output.hasError with
  | true => exact .inr rfl
  | false => exact .inl rfl

theorem Response.status_of_ofPayload?
    {payload : Json}
    {response : Response}
    (answered : ofPayload? payload = some response) :
    response.status = 200 ∨ response.status = 400 := by
  rw [ofPayload?] at answered
  split at answered
  · rcases Option.map_eq_some_iff.mp answered with ⟨error, _, rfl⟩
    cases error with
    | true => exact .inr rfl
    | false => exact .inl rfl
  · cases answered

/-- An endpoint that responds has found something. -/
theorem Endpoint.status_of_respond
    {endpoint : Endpoint}
    {settings : Settings}
    {circumstances : Circumstances}
    {request : Text}
    {payload : Json}
    {routed : Routed}
    (answered : endpoint.respond settings circumstances request payload = .ok routed) :
    routed.response.status = 200 ∨ routed.response.status = 400 := by
  cases endpoint with
  | tool chosen =>
    rw [respond_tool] at answered
    cases answered
    exact Response.status_ofOutput _
  | payload =>
    rw [respond] at answered
    split at answered
    · rename_i handedBack
      cases answered
      exact Response.status_of_ofPayload? handedBack
    · cases answered
  | failing => cases answered

/-- Whatever a request is answered with, it has one of four statuses. -/
theorem status_of_route
    {settings : Settings}
    {circumstances : Circumstances}
    {request : RouteRequest}
    {routed : Routed}
    (answered : route settings circumstances request = .ok routed) :
    routed.response.status ∈ [200, 400, 404, 415] := by
  rw [route] at answered
  split at answered
  · cases answered
    exact List.mem_cons_self
  · split at answered
    · cases answered
      decide
    · split at answered
      · cases answered
        decide
      · split at answered
        · cases answered
          decide
        · split at answered
          · cases answered
            exact List.mem_cons_of_mem _ List.mem_cons_self
          · rcases Endpoint.status_of_respond answered with success | failure
            · simp [success]
            · simp [failure]

/-- The content type and the body of a request can be passed to a tool. -/
def RouteRequest.Readable (request : RouteRequest) : Prop :=
  isJsonContentType request.contentType = true ∧ (Json.parse? request.body).isSome

section

variable
    (settings : Settings)
    (circumstances : Circumstances)
    {request : RouteRequest}
    {tool : Tool}
    (posted : request.method = text "POST")
    (addressed : request.path = tool.webPath)

include posted addressed

theorem route_of_readable
    {payload : Json}
    (json : isJsonContentType request.contentType = true)
    (parsed : Json.parse? request.body = some payload) :
    let output := tool.answer settings circumstances.duration (some payload)
    route settings circumstances request
      = .ok ⟨.ofOutput output,
          (tool.record settings circumstances request.request output).audit⟩ := by
  have noHealth : (request.path == text "/health" && request.method == text "GET") = false := by
    rw [posted]
    exact Bool.and_false _
  rw [route, noHealth, addressed, Endpoint.ofPath?_webPath]
  simp [posted, json, Json.parse, parsed, Endpoint.respond_tool]

end

end InfixCalc
