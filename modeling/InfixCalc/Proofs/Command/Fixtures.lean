import InfixCalc.Proofs.Evaluation.Checked
import InfixCalc.Proofs.Evaluation.ReadBack

/-!
# Fixtures and what they say

A fixture that names a failure says that its expression fails with that code; one that
does not says that its expression has a value, printed as the fixture has it.  A fixture
passes if this is so, for no value is printed as a code or as nothing.  It passes in one
other case: where a failure's code is written in the place of the value.
-/

namespace InfixCalc

deriving instance DecidableEq for Context, CheckedOptions, Fixture

/-- The text contains just its consecutive pieces. -/
theorem Text.contains_iff
    {whole part : Text} :
    whole.contains part = true ↔ part <:+: whole := by
  induction whole with
  | nil => simp [contains]
  | cons unit rest inner =>
    rw [contains, Bool.or_eq_true, List.isPrefixOf_iff_prefix, inner, List.infix_cons_iff]

theorem FailureCode.name_ne_nil (code : FailureCode) : code.name ≠ [] := by
  cases code <;> decide

namespace Fixture

/-- What the fixture says is so. -/
def Satisfied (fixture : Fixture) : Prop :=
  match fixture.error with
  | some code =>
    ∃ failure, fixture.options.evaluate fixture.expression = .error failure ∧
      failure.code.name = code
  | none =>
    ∃ value, fixture.options.evaluate fixture.expression = .ok value ∧
      fixture.value = some value.toText

/-- The fixture names no failure, and wants as a value the code of the failure that there is. -/
def Mistaken (fixture : Fixture) : Prop :=
  fixture.error = none ∧
    ∃ failure, fixture.options.evaluate fixture.expression = .error failure ∧
      fixture.value = some failure.code.name

/-- The failure that the fixture names, if any, is one that there is. -/
def NamesFailure (fixture : Fixture) : Prop :=
  ∀ written ∈ fixture.error, ∃ code : FailureCode, written = code.name

/-! ## Passing -/

/-- No code can be read as a number. -/
theorem plainNumber?_code (code : FailureCode) : Text.plainNumber? code.name = none := by
  cases code <;> rfl

theorem toText_ne_code
    {value : Decimal}
    (isFinite : value.isFinite)
    (code : FailureCode) :
    value.toText ≠ code.name := by
  intro same
  have number := Decimal.plainNumber?_toText isFinite
  rw [same, plainNumber?_code] at number
  cases number

theorem toText_ne_nil
    {value : Decimal}
    (isFinite : value.isFinite) :
    value.toText ≠ [] := by
  intro same
  have number := Decimal.plainNumber?_toText isFinite
  rw [same] at number
  cases number

/-- A fixture passes if what it says is so, or if the code of a failure is its value. -/
theorem passes_iff
    {fixture : Fixture}
    (named : fixture.NamesFailure) :
    fixture.passes = true ↔ fixture.Satisfied ∨ fixture.Mistaken := by
  rw [passes, beq_iff_eq, actual, expected, Satisfied, Mistaken]
  cases result : fixture.options.evaluate fixture.expression with
  | ok value =>
    have isFinite := isFinite_of_evaluate_ok result
    cases error : fixture.error with
    | some written =>
      rcases named written error with ⟨code, rfl⟩
      simpa [outcomeText] using toText_ne_code isFinite code
    | none =>
      cases wanted : fixture.value with
      | some written => simp [outcomeText, eq_comm]
      | none => simpa [outcomeText] using toText_ne_nil isFinite
  | error failure =>
    cases error : fixture.error with
    | some written => simp [outcomeText]
    | none =>
      cases wanted : fixture.value with
      | some written => simp [outcomeText, eq_comm]
      | none => simpa [outcomeText] using failure.code.name_ne_nil

/-! ## Loading -/

/-- The fields of a fixture. -/
def fields : List (Text × Schema) := [
  (text "name", .string none),
  (text "expr", .string none),
  (text "value", .optional (.string none)),
  (text "error", .optional (.choice (FailureCode.all.map FailureCode.name))),
  (text "options", .optional Schema.evalOptions)]

theorem fields_nodup : (fields.map Prod.fst).Nodup := by
  change [text "name", text "expr", text "value", text "error", text "options"].Nodup
  decide

/-- Data that were read by the schema of a fixture. -/
def IsRead (data : Json) : Prop :=
  ∃ members read, data = .object read ∧ Schema.readFields fields members = .ok read

theorem isRead_items
    {value : Json}
    {data : Option Json}
    (accepted : Schema.fixtures.read (some value) = .ok data) :
    ∀ item ∈ (data.bind Json.items?).getD [], IsRead item := by
  rcases Schema.read_array_ok accepted with ⟨given, items, _, rfl, itemsRead⟩
  intro item member
  rcases Schema.readItems_ok itemsRead item member with ⟨one, _, oneRead⟩
  rcases Schema.read_record_ok oneRead with ⟨members, read, _, same, fieldsRead⟩
  exact ⟨members, read, Option.some.inj same, fieldsRead⟩

namespace IsRead

variable
    {data : Json}
    (isRead : IsRead data)

include isRead

theorem namesFailure_ofData : (ofData data).NamesFailure := by
  rcases isRead with ⟨members, read, rfl, fieldsRead⟩
  have error : (Schema.optional (.choice (FailureCode.all.map FailureCode.name))).read
      (Json.lookup members (text "error")) = .ok (Json.lookup read (text "error")) :=
    Schema.readFields_lookup fields_nodup fieldsRead (by simp [fields])
  rcases Schema.read_optional_choice_ok_iff.mp error with ⟨same, named, found, _⟩
  rintro written wanted
  cases named with
  | none => simp [ofData, Json.get?, same, found] at wanted
  | some code =>
    refine ⟨code, ?_⟩
    simpa [ofData, Json.get?, same, found, Json.text?, eq_comm] using wanted

theorem raisesNothing_options : ((data.get? (text "options")).getD .null).RaisesNothing := by
  rcases isRead with ⟨members, read, rfl, fieldsRead⟩
  have options : (Schema.optional Schema.evalOptions).read (Json.lookup members (text "options"))
      = .ok (Json.lookup read (text "options")) :=
    Schema.readFields_lookup fields_nodup fieldsRead (by simp [fields])
  rcases Schema.read_optional_ok options with ⟨_, none⟩ | ⟨given, _, accepted⟩
  · rw [Json.get?, none]
    exact Json.isOptions_null.raisesNothing
  · rcases Schema.read_record_ok accepted with ⟨inner, chosen, _, found, optionsRead⟩
    rw [Json.get?, found]
    exact (Schema.isOptions_of_read ⟨rfl, rfl, rfl⟩ optionsRead).raisesNothing

end IsRead

/-- What is loaded are the fixtures of data that were read one by one. -/
theorem load?_ok
    {complaint : Json.Complaint}
    {written : Text}
    {fixtures : List Fixture}
    (loaded : load? complaint written = .ok fixtures) :
    ∃ items : List Json, fixtures = items.map ofData ∧ ∀ item ∈ items, IsRead item := by
  rw [load?] at loaded
  split at loaded
  · cases loaded
  · split at loaded
    · rename_i accepted
      cases loaded
      exact ⟨_, rfl, isRead_items accepted⟩
    · cases loaded

/-- Fixtures are selected by what their names contain. -/
theorem mem_select_iff
    {only : Option Text}
    {fixtures : List Fixture}
    {fixture : Fixture} :
    fixture ∈ select only fixtures ↔
      fixture ∈ fixtures ∧ ∀ part ∈ only, part <:+: fixture.name := by
  cases only with
  | none => simp [select]
  | some part =>
    cases part with
    | nil => simp [select]
    | cons unit rest => simp [select, Text.contains_iff]

/-- All fixtures that are selected pass just if each says what is so or is mistaken. -/
theorem all_passes_select_iff
    {complaint : Json.Complaint}
    {written : Text}
    {fixtures : List Fixture}
    (loaded : load? complaint written = .ok fixtures)
    {only : Option Text} :
    (select only fixtures).all passes = true ↔
      ∀ fixture ∈ fixtures, (∀ part ∈ only, part <:+: fixture.name) →
        fixture.Satisfied ∨ fixture.Mistaken := by
  have named : ∀ fixture ∈ fixtures, fixture.NamesFailure := by
    rcases load?_ok loaded with ⟨items, rfl, isRead⟩
    intro fixture member
    rcases List.mem_map.mp member with ⟨item, listed, rfl⟩
    exact (isRead item listed).namesFailure_ofData
  rw [List.all_eq_true]
  constructor
  · intro pass fixture member selected
    exact (passes_iff (named fixture member)).mp
      (pass fixture (mem_select_iff.mpr ⟨member, selected⟩))
  · intro settled fixture member
    rcases mem_select_iff.mp member with ⟨listed, selected⟩
    exact (passes_iff (named fixture listed)).mpr (settled fixture listed selected)

end Fixture

end InfixCalc
