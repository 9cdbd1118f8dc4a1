import InfixCalc.Arguments
import InfixCalc.Command.Fixture
import InfixCalc.Proofs.Evaluation.Options
import InfixCalc.Proofs.Schema.Bounds
import InfixCalc.Proofs.Service.Requests

/-!
# Options that have been checked

Options that are handed over unchecked may ask for a number of digits that nothing can
be computed with, or for a rounding mode that is none.  Those that a schema has accepted have
no such fault: handed over unchecked they mean what the checked ones mean, and nothing is
raised.
-/

namespace InfixCalc

/-- Unchecked, the data mean what the checked options of them mean, and nothing is raised. -/
def Json.RaisesNothing (data : Json) : Prop :=
  let checked := CheckedOptions.ofData data
  ∀ expression,
    (Options.ofSettings data).evaluate expression = .ok (checked.evaluate expression) ∧
      (Options.ofSettings data).explain expression
        = .ok (explain checked.context checked.lexer expression)

/-- Each option is left out or is one that can be used. -/
structure Json.IsOptions (data : Json) : Prop where
  precision : ∃ number : Option Double,
    data.get? (text "precision") = number.map .number ∧
      ∀ digits ∈ number, digits.IsWholeWithin 1 1000
  rounding : ∃ mode : Option RoundingMode,
    data.get? (text "rounding") = mode.map fun mode => .string mode.name

theorem Json.isOptions_null : Json.null.IsOptions where
  precision := ⟨none, rfl, nofun⟩
  rounding := ⟨none, rfl⟩

/-- Whichever way the number of digits is read, the data are options. -/
theorem Schema.isOptions_of_read
    {rule : NumberRule}
    (bounds : rule.Bounds 1 1000)
    {members read : List (Text × Json)}
    (accepted : readFields (optionFields rule) members = .ok read) :
    Json.IsOptions (.object read) := by
  rcases readFields_optionFields accepted with ⟨_, precision, rounding⟩
  rcases bounds.read_optional_ok_iff.mp precision with ⟨number, _, found, within⟩
  rcases read_optional_choice_ok_iff.mp rounding with ⟨same, mode, named, _⟩
  exact ⟨⟨number, found, within⟩, ⟨mode, same.trans named⟩⟩

namespace Json.IsOptions

variable
    {data : Json}
    (isOptions : data.IsOptions)

include isOptions

theorem isUsable_precision : (Precision.ofSettings data).IsUsable := by
  rcases isOptions.precision with ⟨_ | digits, found, within⟩
  · have standard : Precision.ofSettings data = .standard := by
      simp [Precision.ofSettings, given?, found]
    rw [standard]
    have twenty : (Double.ofNat Context.standardPrecision).toRat?
        = some (Context.standardPrecision : ℚ) :=
      Double.toRat?_ofNat (by decide)
    exact ⟨Context.standardPrecision, by decide, by decide, twenty⟩
  · have asked : Precision.ofSettings data = .number digits := by
      simp [Precision.ofSettings, given?, found]
    rcases within digits rfl with ⟨whole, positive, bounded, value⟩
    rw [asked]
    exact ⟨whole, positive, bounded.trans (by decide), value⟩

theorem rounding_ofSettings :
    Rounding.ofSettings data = .mode (data.roundingAt (text "rounding") .standard) := by
  rcases isOptions.rounding with ⟨_ | mode, found⟩
  · simp [Rounding.ofSettings, Rounding.standard, given?, roundingAt, found]
  · simp [Rounding.ofSettings, Rounding.ofName, given?, roundingAt, found, display, text?,
      RoundingMode.ofName?_name]

/-- Options that can be used mean unchecked what they mean when checked. -/
theorem ofSettings_eq :
    Options.ofSettings data
      = ⟨(CheckedOptions.ofData data).lexer, .ok (CheckedOptions.ofData data).context⟩ := by
  have lexer : LexerMode.ofSettings data = data.lexerAt (text "lexer") .whitespace := by
    unfold LexerMode.ofSettings lexerAt
    cases data.get? (text "lexer") with
    | none => rfl
    | some given => cases given <;> rfl
  have usable : ¬ ∃ problem, Context.ofPrecision? (.ofSettings data)
      (data.roundingAt (text "rounding") .standard) = .error problem :=
    fun failed => Context.ofPrecision?_error_iff.mp failed isOptions.isUsable_precision
  unfold Options.ofSettings Context.ofSettings? CheckedOptions.ofData
  rw [lexer, isOptions.rounding_ofSettings, Context.ofGiven?]
  dsimp only
  cases context : Context.ofPrecision? (.ofSettings data)
      (data.roundingAt (text "rounding") .standard) with
  | ok context => rfl
  | error problem => exact (usable ⟨problem, context⟩).elim

theorem raisesNothing : data.RaisesNothing := by
  intro expression
  rw [isOptions.ofSettings_eq]
  exact ⟨rfl, rfl⟩

end Json.IsOptions

end InfixCalc
