import InfixCalc.Proofs.Schema.Acceptance
import InfixCalc.Proofs.Schema.Additions
import InfixCalc.Proofs.Service.Requests

/-!
# What the schemas accept

A request is an object with an expression and, if it wants any, options.  The schema of the
service and the schema of the tools are written separately; they accept the same requests,
but for the length of the expression, and read the same data of them.
-/

namespace InfixCalc

/--
The value is an object of options.  An option that is there, be it `null`, has to be a name
of a reader, a whole number from 1 to 1000 or a name of a rounding mode.
-/
def Json.DescribesOptions (value : Json) : Prop :=
  ∃ members, value = .object members ∧
    (∀ given ∈ lookup members (text "lexer"), ∃ mode : LexerMode, given = .string mode.name) ∧
    (∀ given ∈ lookup members (text "precision"),
      ∃ digits, given = .number digits ∧ digits.IsWholeWithin 1 1000) ∧
    ∀ given ∈ lookup members (text "rounding"), ∃ mode : RoundingMode, given = .string mode.name

/-- The value is an object with an expression of at most so many units and, maybe, options. -/
def Json.DescribesRequest
    (longest : Option Nat)
    (value : Json) :
    Prop :=
  ∃ members, value = .object members ∧
    (∃ expression : Text, lookup members (text "expr") = some (.string expression) ∧
      ∀ bound ∈ longest, expression.length ≤ bound) ∧
    ∀ given ∈ lookup members (text "options"), given.DescribesOptions

namespace Schema

theorem accepts_evalOptions_iff
    {value : Json} :
    evalOptions.accepts value = true ↔ value.DescribesOptions := by
  have lexer (given : Json) :
      lexerMode.accepts given = true ↔ ∃ mode : LexerMode, given = .string mode.name :=
    accepts_choice_iff LexerMode.mem_all
  have precision (given : Json) :
      (number digitRule).accepts given = true ↔
        ∃ digits, given = .number digits ∧ digits.IsWholeWithin 1 1000 :=
    accepts_number_iff bounds_digitRule rfl
  have rounding (given : Json) :
      roundingMode.accepts given = true ↔ ∃ mode : RoundingMode, given = .string mode.name :=
    accepts_choice_iff RoundingMode.mem_all
  change (record (optionFields digitRule)).accepts value = true ↔ _
  rw [accepts_record_iff optionFields_nodup]
  simp only [optionFields, List.forall_mem_cons, read_optional_iff, lexer, precision, rounding,
    List.not_mem_nil, false_imp_iff, implies_true, and_true]
  rfl

/-- A request is described but for the bound on its expression. -/
theorem accepts_request_iff
    {longest : Option Nat}
    {value : Json} :
    (record [(text "expr", string longest), (text "options", optional evalOptions)]).accepts value
        = true ↔
      value.DescribesRequest longest := by
  have distinct : ([(text "expr", string longest),
      (text "options", optional evalOptions)].map Prod.fst).Nodup := by
    change [text "expr", text "options"].Nodup
    decide
  rw [accepts_record_iff distinct]
  simp only [List.forall_mem_cons, read_string_iff, read_optional_iff, accepts_evalOptions_iff,
    List.not_mem_nil, false_imp_iff, implies_true, and_true]
  rfl

/-- What the service reads of a request the tools read too. -/
theorem toolParameters_read_of_evalInput
    {value : Json}
    {data : Option Json}
    (accepted : evalInput.read (some value) = .ok data) :
    toolParameters.read (some value) = .ok data := by
  rcases read_record_ok accepted with ⟨members, read, isObject, rfl, fieldsRead⟩
  cases isObject
  rcases readFields_cons_ok fieldsRead with ⟨expression, others, first, later, rfl⟩
  rcases read_string_ok first with ⟨written, found, rfl, _⟩
  have unbounded : (string none).read (Json.lookup members (text "expr"))
      = .ok (Json.lookup members (text "expr")) := by
    rw [found]
    exact keeps_string written
  rw [toolParameters, read_record, readFields_cons, unbounded, later]
  rfl

/--
Schemas accept their language, and nothing is left to read of data.  The schemas of the
service and of the tools accept the requests, the former up to 10000 units, and read the same
data of them.  Each schema accepts the data that it has read, and reads them as they stand;
and it reads the same of a value after members have been added to any of its objects, under
names that it does not name there.
-/
theorem schemas_accept_language :
    (∀ value, evalInput.accepts value = true ↔ value.DescribesRequest (some 10000)) ∧
    (∀ value, toolParameters.accepts value = true ↔ value.DescribesRequest none) ∧
    (∀ value data, evalInput.read (some value) = .ok data →
      toolParameters.read (some value) = .ok data) ∧
    ∀ schema ∈ [lexerMode, roundingMode, evalOptions, evalInput, diagnosticCode, diagnostic,
        traceStep, evalOutput, environment],
      (∀ value data, schema.read (some value) = .ok data →
        ∃ found, data = some found ∧ schema.read (some found) = .ok (some found)) ∧
      ∀ old new, schema.AddsAll old new →
        ∀ data, schema.read (some new) = .ok data ↔ schema.read (some old) = .ok data := by
  refine ⟨fun _ => accepts_request_iff, fun _ => accepts_request_iff,
    fun _ _ => toolParameters_read_of_evalInput, ?_⟩
  have regular : ∀ schema ∈ [lexerMode, roundingMode, evalOptions, evalInput, diagnosticCode,
      diagnostic, traceStep, evalOutput, environment], schema.Regular := by
    simp only [List.forall_mem_cons]
    exact ⟨.choice _, .choice _, regular_evalOptions, regular_evalInput, .choices _,
      regular_diagnostic, regular_traceStep, regular_evalOutput, regular_environment, nofun⟩
  intro schema member
  constructor
  · intro value data accepted
    rcases (regular schema member).exists_of_read accepted with ⟨found, rfl⟩
    exact ⟨found, rfl, (regular schema member).read_data accepted⟩
  · intro old new adds data
    rw [adds.read_eq (regular schema member)]

theorem schemas_accept_language_shift :
    let shift : List (Text × Json) := [
      (text "kind", .literal "shift"), (text "token", .literal "1"), (text "pos", .nat 0),
      (text "operands", .array []), (text "operators", .array [])]
    traceStep.read (some (.object ((text "op", .literal "+") :: shift)))
        = .ok (some (.object shift)) ∧
      traceStep.read (some (.object shift)) = .ok (some (.object shift)) ∧
      toolParameters.read (some (.object [(text "expr", .literal "1")]))
        = .ok (some (.object [(text "expr", .literal "1")])) := by
  intro shift
  rcases schemas_accept_language with ⟨_, _, tools, each⟩
  rcases each traceStep (by simp) with ⟨again, added⟩
  have unnamed : text "op" ∉ (named (some traceStep) ([] ++ shift)).map Prod.fst := by
    decide
  have adds : traceStep.AddsAll (.object shift) (.object ((text "op", .literal "+") :: shift)) :=
    .single (.member unnamed)
  have longer := (added _ _ adds (some (.object shift))).mpr rfl
  rcases again _ _ longer with ⟨_, ⟨⟩, kept⟩
  exact ⟨longer, kept, tools _ _ rfl⟩

end Schema

end InfixCalc
