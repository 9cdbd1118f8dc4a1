import InfixCalc.Proofs.Schema.Kept
import Mathlib.Data.List.Basic

/-!
# What is reported of a refused value

A record reports what is wrong with its fields, one field after the other, and what is wrong
with a field depends on the member of its name alone.  Where the fields have no parts of
their own, every issue names the field that it is about, and a field is named if and only if
it is refused.
-/

namespace InfixCalc

/-- The issues of a result, none if there are data. -/
def Issue.reported
    {α : Type} :
    Except (List Issue) α → List Issue
  | .ok _ => []
  | .error issues => issues

@[simp]
theorem Issue.reported_map
    {α β : Type}
    (function : α → β)
    (result : Except (List Issue) α) :
    reported (result.map function) = reported result := by
  cases result <;> rfl

/-- What is made of data does not decide whether there are data. -/
theorem Issue.exists_map_eq_ok_iff
    {α β : Type}
    (function : α → β)
    {result : Except (List Issue) α} :
    (∃ made, result.map function = .ok made) ↔ ∃ data, result = .ok data := by
  cases result with
  | ok data => exact iff_of_true ⟨function data, rfl⟩ ⟨data, rfl⟩
  | error issues => exact iff_of_false nofun nofun

namespace Schema

/-- What is wrong with a value that may be missing, all of it. -/
def issues
    (schema : Schema)
    (value : Option Json) :
    List Issue :=
  Issue.reported (schema.read value)

/-! ## Records -/

theorem reported_readFields
    (fields : List (Text × Schema))
    (members : List (Text × Json)) :
    Issue.reported (readFields fields members) =
      fields.flatMap fun field =>
        (field.2.issues (Json.lookup members field.1)).map (.under (.member field.1)) := by
  induction fields with
  | nil => rfl
  | cons field rest inner =>
    rcases field with ⟨name, schema⟩
    rw [List.flatMap_cons, ← inner, readFields_cons, issues]
    cases schema.read (Json.lookup members name) with
    | ok data => cases readFields rest members <;> rfl
    | error found =>
      cases readFields rest members with
      | ok others => exact (List.append_nil _).symm
      | error others => rfl

/-- What is wrong with a record is what is wrong with its fields, in their order. -/
theorem issues_record
    (fields : List (Text × Schema))
    (members : List (Text × Json)) :
    (record fields).issues (some (.object members)) =
      fields.flatMap fun field =>
        (field.2.issues (Json.lookup members field.1)).map (.under (.member field.1)) := by
  rw [issues, read_record, Issue.reported_map, reported_readFields]

/-! ## Values without parts -/

/-- The schema describes values that have no parts. -/
inductive Simple : Schema → Prop where
  | string (longest : Option Nat) : Simple (.string longest)
  | number (rule : NumberRule) : Simple (.number rule)
  | choice (names : List Text) : Simple (.choice names)
  | choices (groups : List (List Text)) : Simple (.choices groups)
  | optional
      {schema : Schema} :
      Simple schema →
      Simple (.optional schema)
  | nullable
      {schema : Schema} :
      Simple schema →
      Simple (.nullable schema)
  | withDefault
      {schema : Schema}
      {substitute : Json} :
      Simple schema →
      Simple (.withDefault schema substitute)

/-- There is an issue at least, and all issues are about the value itself. -/
def AboutItself (issues : List Issue) : Prop :=
  issues ≠ [] ∧ ∀ issue ∈ issues, issue.path = []

theorem aboutItself_map_here
    {complaints : List Complaint}
    (nonempty : complaints ≠ []) :
    AboutItself (complaints.map .here) := by
  constructor
  · rwa [ne_eq, List.map_eq_nil_iff]
  · intro issue member
    rcases List.mem_map.mp member with ⟨complaint, _, rfl⟩
    rfl

theorem aboutItself_here (complaint : Complaint) : AboutItself [.here complaint] :=
  aboutItself_map_here (List.cons_ne_nil complaint [])

/-- A value without parts is accepted or refused for what it is itself. -/
theorem Simple.aboutItself
    {schema : Schema}
    (simple : schema.Simple)
    {value : Option Json}
    {found : List Issue}
    (refused : schema.read value = .error found) :
    AboutItself found := by
  induction simple generalizing value with
  | string _ | choice _ | choices _ =>
    -- The value is no string, or it is a string that does not fit.
    simp only [read, readString, readChoice, readChoices] at refused
    split at refused
    · split at refused
      · cases refused
      · cases refused
        exact aboutItself_here _
    · cases refused
      exact aboutItself_here _
  | number rule =>
    rw [read_number, NumberRule.read] at refused
    split at refused
    · cases refused
      exact aboutItself_here _
    · split at refused
      · cases refused
      · rename_i nonempty
        cases refused
        exact aboutItself_map_here nonempty
    · cases refused
      exact aboutItself_here _
  | optional _ inner =>
    cases value with
    | none => cases refused
    | some given => exact inner refused
  | nullable _ inner =>
    simp only [read] at refused
    split at refused
    · cases refused
    · exact inner refused
  | withDefault _ inner => exact inner refused

theorem Simple.issues_eq_nil_iff
    {schema : Schema}
    (simple : schema.Simple)
    {value : Option Json} :
    schema.issues value = [] ↔ ∃ data, schema.read value = .ok data := by
  rw [issues]
  cases result : schema.read value with
  | ok data => exact iff_of_true rfl ⟨data, rfl⟩
  | error found => exact iff_of_false (simple.aboutItself result).1 nofun

/-- All issues are about the value itself. -/
theorem Simple.paths_issues
    {schema : Schema}
    (simple : schema.Simple)
    (value : Option Json) :
    (schema.issues value).map Issue.path = List.replicate (schema.issues value).length [] := by
  rw [← List.map_const']
  apply List.map_congr_left
  intro issue member
  rw [issues] at member
  cases result : schema.read value with
  | ok data =>
    rw [result] at member
    cases member
  | error found =>
    rw [result] at member
    exact (simple.aboutItself result).2 issue member

/-- Fields without parts are named as often as there are issues about them. -/
theorem paths_issues_record
    {fields : List (Text × Schema)}
    (simple : ∀ field ∈ fields, field.2.Simple)
    (members : List (Text × Json)) :
    ((record fields).issues (some (.object members))).map Issue.path =
      fields.flatMap fun field =>
        List.replicate (field.2.issues (Json.lookup members field.1)).length
          [.member field.1] := by
  rw [issues_record, List.map_flatMap]
  apply List.flatMap_congr
  intro field member
  have paths := (simple field member).paths_issues (Json.lookup members field.1)
  have under : Issue.path ∘ Issue.under (.member field.1)
      = List.cons (.member field.1) ∘ Issue.path := rfl
  rw [List.map_map, under, ← List.map_map, paths, List.map_replicate]

end Schema

end InfixCalc
