import InfixCalc.Command.Run
import InfixCalc.Proofs.Double.Numeral
import InfixCalc.Proofs.Schema.Bounds
import InfixCalc.Proofs.Service.Requests

/-!
# One choice of options, written in two ways

A caller may give each option or leave it open.  To the service a choice is an object
of names and numbers, to the command it is a list of flags whose values are all texts.
Both are read as the same data, and so they mean the same reader and the same context.
-/

namespace InfixCalc

/-- Which options are given.  The number of digits is one that a request may ask for. -/
structure Choice where
  lexer : Option LexerMode
  digits : Option Nat
  rounding : Option RoundingMode
  bounded : ∀ count ∈ digits, 1 ≤ count ∧ count ≤ 1000

namespace Choice

variable (choice : Choice)

/-- The reader that a choice means. -/
def mode : LexerMode :=
  choice.lexer.getD .whitespace

/-- The number of digits that a choice means. -/
def precision : Nat :=
  choice.digits.getD Context.standardPrecision

theorem precision_bounds : 1 ≤ choice.precision ∧ choice.precision ≤ 1000 := by
  unfold precision
  cases given : choice.digits with
  | none => exact ⟨by decide, by decide⟩
  | some count => exact choice.bounded count given

/-- The context that a choice means. -/
def context : Context where
  precision := choice.precision
  mode := choice.rounding.getD .standard
  precision_pos := choice.precision_bounds.1
  precision_le := choice.precision_bounds.2.trans (by decide)

/-- The members of a choice, the number of digits being written in some way. -/
def membersWith (written : Nat → Json) : List (Text × Json) :=
  (choice.lexer.map fun mode => (text "lexer", Json.string mode.name)).toList
    ++ (choice.digits.map fun count => (text "precision", written count)).toList
    ++ (choice.rounding.map fun mode => (text "rounding", Json.string mode.name)).toList

/-- The request for an expression under a choice. -/
def request (expression : Text) : Json :=
  .object [
    (text "expr", .string expression),
    (text "options", .object (choice.membersWith .nat))]

/-- The arguments that give a choice to the command. -/
def flags : List Text :=
  (choice.lexer.map fun mode => [text "--lexer", mode.name]).getD []
    ++ (choice.digits.map fun count => [text "--precision", Text.numeral count]).getD []
    ++ (choice.rounding.map fun mode => [text "--rounding", mode.name]).getD []

/-! ## What the members say -/

section

variable (written : Nat → Json)

theorem lookup_lexer :
    Json.lookup (choice.membersWith written) (text "lexer")
      = choice.lexer.map fun mode => .string mode.name := by
  rcases choice with ⟨_ | lexer, _ | digits, _ | rounding, bounded⟩ <;> rfl

theorem lookup_precision :
    Json.lookup (choice.membersWith written) (text "precision")
      = choice.digits.map written := by
  rcases choice with ⟨_ | lexer, _ | digits, _ | rounding, bounded⟩ <;> rfl

theorem lookup_rounding :
    Json.lookup (choice.membersWith written) (text "rounding")
      = choice.rounding.map fun mode => .string mode.name := by
  rcases choice with ⟨_ | lexer, _ | digits, _ | rounding, bounded⟩ <;> rfl

end

/-- The data of a choice name the reader that was given. -/
theorem lexer_members :
    (((Json.object (choice.membersWith .nat)).get? (text "lexer")).bind Json.text?).bind
        LexerMode.ofName?
      = choice.lexer := by
  rw [Json.get?, lookup_lexer]
  cases choice.lexer with
  | none => rfl
  | some mode => exact LexerMode.ofName?_name mode

theorem precision_members :
    ((Json.object (choice.membersWith .nat)).get? (text "precision")).bind Json.number?
      = choice.digits.map .ofNat := by
  rw [Json.get?, lookup_precision]
  cases choice.digits <;> rfl

theorem rounding_members :
    (((Json.object (choice.membersWith .nat)).get? (text "rounding")).bind Json.text?).bind
        RoundingMode.ofName?
      = choice.rounding := by
  rw [Json.get?, lookup_rounding]
  cases choice.rounding with
  | none => rfl
  | some mode => exact RoundingMode.ofName?_name mode

/-! ## Reading a choice -/

/-- Numbers of digits are small enough to be written as numerals. -/
theorem lt_significandBound_of_bounds
    {count : Nat}
    (bounds : 1 ≤ count ∧ count ≤ 1000) :
    count < Double.significandBound :=
  bounds.2.trans_lt (by decide)

theorem read_lexerMode (mode : LexerMode) :
    Schema.lexerMode.read (some (.string mode.name)) = .ok (some (.string mode.name)) :=
  Schema.keeps_choice (List.mem_map_of_mem mode.mem_all)

theorem read_roundingMode (mode : RoundingMode) :
    Schema.roundingMode.read (some (.string mode.name)) = .ok (some (.string mode.name)) :=
  Schema.keeps_choice (List.mem_map_of_mem mode.mem_all)

theorem read_optional_map
    {α : Type}
    {schema : Schema}
    {given : Option α}
    {before after : α → Json}
    (reads : ∀ one ∈ given, schema.read (some (before one)) = .ok (some (after one))) :
    (Schema.optional schema).read (given.map before) = .ok (given.map after) := by
  cases given with
  | none => exact Schema.read_optional_none schema
  | some one => exact reads one rfl

/-- However the number of digits is written, the data are names and a number. -/
theorem read_membersWith
    {rule : NumberRule}
    {written : Nat → Json}
    (reads : ∀ count ∈ choice.digits,
      (Schema.number rule).read (some (written count)) = .ok (some (.nat count))) :
    (Schema.record (Schema.optionFields rule)).read (some (.object (choice.membersWith written)))
      = .ok (some (.object (choice.membersWith .nat))) := by
  have lexer : (Schema.optional Schema.lexerMode).read
      (Json.lookup (choice.membersWith written) (text "lexer"))
        = .ok (choice.lexer.map fun mode => .string mode.name) := by
    rw [lookup_lexer]
    exact read_optional_map fun mode _ => read_lexerMode mode
  have precision : (Schema.optional (.number rule)).read
      (Json.lookup (choice.membersWith written) (text "precision"))
        = .ok (choice.digits.map .nat) := by
    rw [lookup_precision]
    exact read_optional_map reads
  have rounding : (Schema.optional Schema.roundingMode).read
      (Json.lookup (choice.membersWith written) (text "rounding"))
        = .ok (choice.rounding.map fun mode => .string mode.name) := by
    rw [lookup_rounding]
    exact read_optional_map fun mode _ => read_roundingMode mode
  rw [Schema.read_record, Schema.optionFields, Schema.readFields_cons, Schema.readFields_cons,
    Schema.readFields_cons, Schema.readFields_nil, lexer, precision, rounding]
  simp [membersWith, Except.map, Option.toList_map, Function.comp_def]

/-- Nothing is wrong with a number of digits within its bounds. -/
theorem complaints_digitRule
    {count : Nat}
    (bounds : 1 ≤ count ∧ count ≤ 1000) :
    Schema.digitRule.complaints (.ofNat count) = [] := by
  have value := Double.toRat?_ofNat (lt_significandBound_of_bounds bounds)
  exact Schema.bounds_digitRule.complaints_eq_nil_iff.mpr ⟨count, bounds.1, bounds.2, value⟩

/-- The service reads a choice as it stands. -/
theorem keeps_members : Schema.evalOptions.Keeps (.object (choice.membersWith .nat)) := by
  apply choice.read_membersWith
  intro count given
  exact Schema.read_number_of_fine rfl (Double.ofNat_ne_nan count)
    (complaints_digitRule (choice.bounded count given))

/-- The command reads numerals as numbers. -/
theorem read_flags :
    Schema.flags.read
        (some (.object (choice.membersWith fun count => .string (Text.numeral count))))
      = .ok (some (.object (choice.membersWith .nat))) := by
  apply choice.read_membersWith
  intro count given
  apply Schema.read_number_of_fine _ (Double.ofNat_ne_nan count)
    (complaints_digitRule (choice.bounded count given))
  simp [NumberRule.input, Json.toNumber, Json.display, Double.ofText_numeral]

/-! ## What a choice means -/

theorem ofPrecision?_ofNat
    {count : Nat}
    (bounds : 1 ≤ count ∧ count ≤ 1000)
    (mode : RoundingMode) :
    Context.ofPrecision? (.number (.ofNat count)) mode
      = .ok ⟨count, mode, bounds.1, bounds.2.trans (by decide)⟩ := by
  have small := lt_significandBound_of_bounds bounds
  have limits : 0 < count ∧ count ≤ 1000000000 := ⟨bounds.1, bounds.2.trans (by decide)⟩
  simp only [Context.ofPrecision?, Precision.digits?, Double.toNat?_ofNat small, dif_pos limits]

theorem ofPrecision?_precision :
    Context.ofPrecision? (.number (.ofNat choice.precision)) (choice.rounding.getD .standard)
      = .ok choice.context :=
  ofPrecision?_ofNat choice.precision_bounds _

/-- The options that the command makes of a choice. -/
theorem ofData_members :
    CheckedOptions.ofData (.object (choice.membersWith .nat)) = ⟨choice.mode, choice.context⟩ := by
  have precision : Precision.ofSettings (.object (choice.membersWith .nat))
      = .number (.ofNat choice.precision) := by
    rw [Precision.ofSettings, Json.given?, Json.get?, lookup_precision, Choice.precision]
    cases choice.digits <;> rfl
  simp only [CheckedOptions.ofData, Json.lexerAt, Json.roundingAt, lexer_members,
    rounding_members, precision, ofPrecision?_precision, mode]

/-- The request that the service makes of a choice. -/
theorem ofJson?_request
    {expression : Text}
    (short : expression.length ≤ Schema.longestExpression) :
    EvalInput.ofJson? (some (choice.request expression))
      = .ok ⟨expression, choice.lexer, choice.digits.map .ofNat, choice.rounding⟩ := by
  have keeps : Schema.evalInput.Keeps (choice.request expression) := by
    apply Schema.keeps_record (by decide)
    exact .present (Schema.keeps_string_of_le short)
      (.present (Schema.keeps_optional choice.keeps_members) .nil)
  have options : ((choice.request expression).get? (text "options")).getD .null
      = .object (choice.membersWith .nat) := rfl
  have written : ((choice.request expression).get? (text "expr")).bind Json.text?
      = some expression := rfl
  rw [EvalInput.ofJson?, keeps, Except.map, Option.getD_some, EvalInput.ofData]
  simp only [options, written, lexer_members, precision_members, rounding_members,
    Option.getD_some]

/-- The options of the request, what is left open having the values of the empty environment. -/
theorem options_request (expression : Text) :
    EvalInput.options ⟨expression, choice.lexer, choice.digits.map .ofNat, choice.rounding⟩
        Settings.standard.defaults
      = ⟨choice.mode, .ok choice.context⟩ := by
  have precision : ((choice.digits.map Double.ofNat).map Precision.number).getD .standard
      = .number (.ofNat choice.precision) := by
    rw [Choice.precision]
    cases choice.digits <;> rfl
  have rounding : (choice.rounding.map Rounding.mode).getD .standard
      = .mode (choice.rounding.getD .standard) := by
    cases choice.rounding <;> rfl
  rw [EvalInput.options]
  simp only [Settings.standard, precision, rounding, Context.ofGiven?, ofPrecision?_precision,
    mode]

end Choice

end InfixCalc
