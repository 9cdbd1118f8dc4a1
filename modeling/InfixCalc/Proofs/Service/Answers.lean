import InfixCalc.Proofs.Double.Exact
import InfixCalc.Proofs.Schema.Kept
import InfixCalc.Schema.Catalog
import InfixCalc.Service.Output

/-!
# Answers pass their schema

Whatever the service can put into an answer, the schema of answers keeps as it
is.  Positions are the only numbers that have to be whole, and they are as long
as no double has lost a bit of them.
-/

namespace InfixCalc

open Schema (Fits)

theorem DiagnosticCode.keeps_name (code : DiagnosticCode) :
    Schema.diagnosticCode.Keeps (.string code.name) := by
  cases code with
  | failure code =>
    apply Schema.keeps_choices List.mem_cons_self
    exact List.mem_map_of_mem (by cases code <;> decide)
  | schemaError => exact Schema.keeps_choices (.tail _ List.mem_cons_self) List.mem_cons_self
  | internal => exact Schema.keeps_choices (.tail _ List.mem_cons_self) (.tail _ List.mem_cons_self)

theorem Severity.keeps_name (severity : Severity) :
    (Schema.choice Schema.severities).Keeps (.string severity.name) := by
  apply Schema.keeps_choice
  cases severity with
  | error => exact List.mem_cons_self
  | warning => exact .tail _ List.mem_cons_self
  | info => exact .tail _ (.tail _ List.mem_cons_self)

theorem Schema.keeps_nat (number : Nat) : (Schema.number {}).Keeps (.nat number) :=
  keeps_number rfl (Double.ofNat_ne_nan number) rfl

theorem Schema.keeps_int (number : Int) : (Schema.number {}).Keeps (.int number) :=
  keeps_number rfl (Double.ofInt_ne_nan number) rfl

/-- A position is a whole number that is not negative. -/
theorem Schema.keeps_position
    {position : Nat}
    (small : position < Double.significandBound) :
    (number { integer := true, minimum := some 0 }).Keeps (.nat position) := by
  apply keeps_number rfl (Double.ofNat_ne_nan position)
  simp [NumberRule.complaints, Double.isInteger_ofNat small, Double.ltNat_ofNat small]

theorem Diagnostic.keeps_toJson
    {diagnostic : Diagnostic}
    (small : ∀ position, diagnostic.position = some position → position < Double.significandBound) :
    Schema.diagnostic.Keeps diagnostic.toJson := by
  rcases diagnostic with ⟨code, message, position, severity⟩
  have last : Fits [(text "severity", .choice Schema.severities)]
      [(text "severity", .string severity.name)] :=
    .present severity.keeps_name .nil
  apply Schema.keeps_record (by decide)
  cases position with
  | none =>
    exact .present code.keeps_name (.present (Schema.keeps_string _)
      (.missing (Schema.read_optional_none _) last))
  | some position =>
    exact .present code.keeps_name (.present (Schema.keeps_string _)
      (.present (Schema.keeps_optional (Schema.keeps_position (small position rfl))) last))

theorem Schema.keeps_strings (texts : List Text) :
    (array (string none)).Keeps (.array (texts.map .string)) := by
  apply keeps_array
  intro item member
  rcases List.mem_map.mp member with ⟨written, _, rfl⟩
  exact keeps_string written

theorem Snapshot.fits_members (snapshot : Snapshot) :
    Fits Schema.snapshotFields snapshot.members :=
  .present (Schema.keeps_strings _) (.present (Schema.keeps_strings _) .nil)

/-- A written step has one of the two forms, and its operator is one that there is. -/
theorem TraceStep.keeps_ofStep (step : Step) : Schema.traceStep.Keeps (ofStep step).toJson := by
  rcases step with ⟨token | ⟨symbol, position, left, right, result⟩, after⟩
  · apply Schema.keeps_tagged (by decide) List.mem_cons_self (by decide)
    exact .present (Schema.keeps_string _)
      (.present (Schema.keeps_nat _) after.snapshot.fits_members)
  · have isOperator : symbol.toText ∈ Operator.all.map Operator.toText :=
      List.mem_map_of_mem (by cases symbol <;> decide)
    apply Schema.keeps_tagged (by decide) (.tail _ List.mem_cons_self) (by decide)
    exact .present (Schema.keeps_choice isOperator) (.present (Schema.keeps_nat _)
      (.present (Schema.keeps_string _) (.present (Schema.keeps_string _)
        (.present (Schema.keeps_string _) after.snapshot.fits_members))))

/-- The schema of answers keeps an answer with small positions and steps of a machine. -/
theorem EvalOutput.keeps_toJson
    {output : EvalOutput}
    (small : ∀ diagnostic ∈ output.diagnostics, ∀ position,
      diagnostic.position = some position → position < Double.significandBound)
    (written : ∀ steps, output.steps = some steps →
      ∃ work : List Step, steps = work.map TraceStep.ofStep) :
    Schema.evalOutput.Keeps output.toJson := by
  rcases output with ⟨value, diagnostics, steps, duration⟩
  have keepsValue : (Schema.nullable (.string none)).Keeps
      ((value.map Json.string).getD .null) := by
    cases value with
    | none => exact Schema.keeps_nullable_null _
    | some value => exact Schema.keeps_nullable_string (Schema.keeps_string value)
  have keepsDiagnostics : (Schema.array Schema.diagnostic).Keeps
      (.array (diagnostics.map Diagnostic.toJson)) := by
    apply Schema.keeps_array
    intro item member
    rcases List.mem_map.mp member with ⟨diagnostic, diagnosticMember, rfl⟩
    exact Diagnostic.keeps_toJson (small diagnostic diagnosticMember)
  have last : Fits [(text "perf", .record [(text "durationMs", .number {})])]
      [(text "perf", .object [(text "durationMs", .int duration.milliseconds)])] :=
    .present (Schema.keeps_record (by decide) (.present (Schema.keeps_int _) .nil)) .nil
  apply Schema.keeps_record (by decide)
  cases steps with
  | none =>
    exact .present keepsValue (.present keepsDiagnostics
      (.missing (Schema.read_optional_none _) last))
  | some steps =>
    have keepsSteps : (Schema.array Schema.traceStep).Keeps
        (.array (steps.map TraceStep.toJson)) := by
      rcases written steps rfl with ⟨work, rfl⟩
      apply Schema.keeps_array
      intro item member
      rw [List.map_map] at member
      rcases List.mem_map.mp member with ⟨step, _, rfl⟩
      exact TraceStep.keeps_ofStep step
    exact .present keepsValue (.present keepsDiagnostics
      (.present (Schema.keeps_optional keepsSteps) last))

end InfixCalc
