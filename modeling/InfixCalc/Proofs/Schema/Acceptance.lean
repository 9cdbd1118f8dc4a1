import InfixCalc.Proofs.Schema.Bounds

/-!
# What each kind of schema accepts

A record accepts the objects whose members its fields accept one by one, and the kinds of
schemas from which the records of the service are made each accept what they describe.
-/

namespace InfixCalc.Schema

theorem accepts_iff
    {schema : Schema}
    {value : Json} :
    schema.accepts value = true ↔ ∃ data, schema.read (some value) = .ok data := by
  rw [accepts]
  cases schema.read (some value) with
  | ok data => simp
  | error issues => simp

theorem read_string_iff
    {longest : Option Nat}
    {value : Option Json} :
    (∃ data, (string longest).read value = .ok data) ↔
      ∃ written, value = some (.string written) ∧ ∀ bound ∈ longest, written.length ≤ bound := by
  constructor
  · rintro ⟨data, accepted⟩
    rcases read_string_ok accepted with ⟨written, found, _, short⟩
    exact ⟨written, found, short⟩
  · rintro ⟨written, rfl, short⟩
    cases longest with
    | none => exact ⟨_, keeps_string written⟩
    | some bound => exact ⟨_, keeps_string_of_le (short bound rfl)⟩

/-- A value that may be missing is missing or accepted; `null` is not missing. -/
theorem read_optional_iff
    {schema : Schema}
    {value : Option Json} :
    (∃ data, (optional schema).read value = .ok data) ↔
      ∀ given ∈ value, schema.accepts given = true := by
  simp only [accepts_iff]
  cases value with
  | none => exact iff_of_true ⟨none, read_optional_none schema⟩ nofun
  | some given =>
    constructor
    · rintro accepted _ ⟨⟩
      exact accepted
    · exact fun accepted => accepted given rfl

theorem accepts_record_iff
    {fields : List (Text × Schema)}
    (distinct : (fields.map Prod.fst).Nodup)
    {value : Json} :
    (record fields).accepts value = true ↔
      ∃ members, value = .object members ∧
        ∀ field ∈ fields, ∃ data, field.2.read (Json.lookup members field.1) = .ok data := by
  rw [accepts_iff]
  constructor
  · rintro ⟨data, accepted⟩
    rcases read_record_ok accepted with ⟨members, read, isObject, _, fieldsRead⟩
    exact ⟨members, Option.some.inj isObject,
      fun field member => ⟨_, readFields_lookup distinct fieldsRead member⟩⟩
  · rintro ⟨members, rfl, each⟩
    rcases readFields_ok each with ⟨read, fieldsRead⟩
    exact ⟨_, by rw [read_record, fieldsRead]; rfl⟩

/-- The names of some things are accepted, if all of the things are listed. -/
theorem accepts_choice_iff
    {α : Type}
    {all : List α}
    {name : α → Text}
    (complete : ∀ one, one ∈ all)
    {value : Json} :
    (choice (all.map name)).accepts value = true ↔ ∃ one, value = .string (name one) := by
  rw [accepts_iff]
  constructor
  · rintro ⟨data, accepted⟩
    rcases read_choice_ok accepted with ⟨written, member, found, _⟩
    rcases List.mem_map.mp member with ⟨one, _, rfl⟩
    exact ⟨one, Option.some.inj found⟩
  · rintro ⟨one, rfl⟩
    exact ⟨_, keeps_choice (List.mem_map_of_mem (complete one))⟩

section

variable
    {rule : NumberRule}
    {low high : Nat}
    (bounds : rule.Bounds low high)
    {value : Json}

include bounds

theorem accepts_number_iff
    (asIs : rule.coerced = false) :
    (number rule).accepts value = true ↔
      ∃ digits, value = .number digits ∧ digits.IsWholeWithin low high := by
  rw [accepts_iff]
  simp only [bounds.read_ok_iff, NumberRule.input, asIs, if_neg Bool.false_ne_true]
  constructor
  · rintro ⟨_, digits, found, _, within⟩
    exact ⟨digits, Option.some.inj found, within⟩
  · rintro ⟨digits, rfl, within⟩
    exact ⟨_, digits, rfl, rfl, within⟩

/-- Where a number is made of the value, the number counts. -/
theorem accepts_coerced_iff
    (coerced : rule.coerced = true) :
    (number rule).accepts value = true ↔ value.toNumber.IsWholeWithin low high := by
  rw [accepts_iff]
  simp only [bounds.read_ok_iff, NumberRule.input, coerced, if_true]
  constructor
  · rintro ⟨_, digits, found, _, within⟩
    cases found
    exact within
  · exact fun within => ⟨_, _, rfl, rfl, within⟩

end

end InfixCalc.Schema
