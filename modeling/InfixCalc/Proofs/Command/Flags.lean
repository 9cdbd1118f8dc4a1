import InfixCalc.Command.Run
import InfixCalc.Proofs.Evaluation.Checked
import InfixCalc.Proofs.Schema.Acceptance
import Mathlib.Data.Option.Basic

/-!
# Flags that can be used

A flag that is left out is in order.  The flag for the reader and the flag for the
rounding mode have to name one, and the flag for the number of digits has to read as a
whole number from 1 to 1000.  Flags are accepted just if all three are in order, and
the options that come of them can be handed over unchecked.
-/

namespace InfixCalc

namespace Command

/-- The value of every flag that asks for an option is one that there is. -/
structure FlagValues.Usable (values : FlagValues) : Prop where
  lexer : ∀ written ∈ values.get? .lexer, ∃ mode : LexerMode, written = mode.name
  precision : ∀ written ∈ values.get? .precision, (Double.ofText written).IsWholeWithin 1 1000
  rounding : ∀ written ∈ values.get? .rounding, ∃ mode : RoundingMode, written = mode.name

/-- The number of digits as a flag gives it: a text. -/
def digitFlagRule : NumberRule :=
  { Schema.digitRule with coerced := true }

theorem bounds_digitFlagRule : digitFlagRule.Bounds 1 1000 := ⟨rfl, rfl, rfl⟩

/-- The data of flags have under each name what the flag of that name was given. -/
theorem flagData_eq (values : FlagValues) :
    ∃ members,
      flagData values = .object members ∧
        Json.lookup members (text "lexer") = (values.get? .lexer).map .string ∧
        Json.lookup members (text "precision") = (values.get? .precision).map .string ∧
        Json.lookup members (text "rounding") = (values.get? .rounding).map .string := by
  refine ⟨_, rfl, ?_, ?_, ?_⟩
  all_goals
    dsimp only
    rcases values.get? .lexer with _ | lexer <;>
      rcases values.get? .precision with _ | digits <;>
        rcases values.get? .rounding with _ | rounding <;> rfl

variable {values : FlagValues}

/-- There are options just if the schema of flags accepts what the flags say. -/
theorem options?_ok_iff_accepts :
    (∃ options, options? values = .ok options) ↔ Schema.flags.accepts (flagData values) = true := by
  rw [Schema.accepts_iff, options?]
  cases Schema.flags.read (some (flagData values)) with
  | ok data => exact iff_of_true ⟨_, rfl⟩ ⟨data, rfl⟩
  | error issues => exact iff_of_false nofun nofun

/-- Flags are accepted just if all of them are in order. -/
theorem options?_ok_iff : (∃ options, options? values = .ok options) ↔ values.Usable := by
  rcases flagData_eq values with ⟨members, isObject, lexer, precision, rounding⟩
  have lexerName (written : Text) :
      Schema.lexerMode.accepts (.string written) = true ↔
        ∃ mode : LexerMode, written = mode.name := by
    rw [Schema.lexerMode, Schema.accepts_choice_iff LexerMode.mem_all]
    simp
  have digits (written : Text) :
      (Schema.number digitFlagRule).accepts (.string written) = true ↔
        (Double.ofText written).IsWholeWithin 1 1000 :=
    Schema.accepts_coerced_iff bounds_digitFlagRule rfl
  have roundingName (written : Text) :
      Schema.roundingMode.accepts (.string written) = true ↔
        ∃ mode : RoundingMode, written = mode.name := by
    rw [Schema.roundingMode, Schema.accepts_choice_iff RoundingMode.mem_all]
    simp
  rw [options?_ok_iff_accepts, isObject]
  change (Schema.record (Schema.optionFields digitFlagRule)).accepts (.object members) = true ↔ _
  rw [Schema.accepts_record_iff Schema.optionFields_nodup]
  simp only [Json.object.injEq, exists_eq_left', Schema.optionFields, List.forall_mem_cons,
    Schema.read_optional_iff, lexer, precision, rounding, Option.forall_mem_map, lexerName, digits,
    roundingName]
  constructor
  · rintro ⟨lexerFits, precisionFits, roundingFits, _⟩
    exact ⟨lexerFits, precisionFits, roundingFits⟩
  · rintro ⟨lexerFits, precisionFits, roundingFits⟩
    exact ⟨lexerFits, precisionFits, roundingFits, nofun⟩

theorem raisesNothing_flags
    {data : Option Json}
    (accepted : Schema.flags.read (some (flagData values)) = .ok data) :
    (data.getD .null).RaisesNothing := by
  rcases Schema.read_record_ok accepted with ⟨members, read, _, rfl, fieldsRead⟩
  exact (Schema.isOptions_of_read bounds_digitFlagRule fieldsRead).raisesNothing

end Command

end InfixCalc
