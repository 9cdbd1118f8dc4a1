import InfixCalc.Proofs.Double.Reading
import InfixCalc.Proofs.Schema.Acceptance
import InfixCalc.Proofs.Schema.Issues
import InfixCalc.Proofs.Schema.Regular
import InfixCalc.Proofs.Service.Requests
import InfixCalc.Settings

/-!
# Variables and what they mean

Six variables of the environment are read, each for one field of the settings.  What a
variable means is said here without the schema: it has to be a name, or count as a whole
number within bounds.  The schema of a variable accepts just what means something, and the
data that it reads are for the field that is meant.
-/

namespace InfixCalc

theorem ServiceMode.ofName?_name (mode : ServiceMode) : ofName? mode.name = some mode := by
  cases mode <;> decide

theorem ServiceMode.mem_all (mode : ServiceMode) : mode ∈ all := by
  cases mode <;> decide

/-- The text of a variable, if the environment has the variable. -/
def Environment.value?
    (environment : Environment)
    (name : Text) :
    Option Text :=
  (environment.reverse.find? fun entry => entry.1 == name).map Prod.snd

/-- The variables that are read. -/
inductive Variable where
  | mode
  | port
  | lexer
  | precision
  | rounding
  | audit
  deriving DecidableEq, Repr

namespace Variable

/-- All variables, in the order in which they are reported. -/
def all : List Variable := [mode, port, lexer, precision, rounding, audit]

/-- The name of a variable. -/
def name : Variable → Text
  | mode => text "MODE"
  | port => text "PORT"
  | lexer => text "STACKCALC_LEXER"
  | precision => text "STACKCALC_PRECISION"
  | rounding => text "STACKCALC_ROUNDING"
  | audit => text "STACKCALC_AUDIT"

/-- What a variable decides. -/
abbrev Field : Variable → Type
  | mode => ServiceMode
  | port => Double
  | lexer => LexerMode
  | precision => Precision
  | rounding => Rounding
  | audit => Bool

/-- The field of the settings that is for a variable. -/
def field (settings : Settings) : (which : Variable) → which.Field
  | mode => settings.mode
  | port => settings.port
  | lexer => settings.defaults.lexer
  | precision => settings.defaults.precision
  | rounding => settings.defaults.rounding
  | audit => settings.audit

/-- The name of a switch that is on or off. -/
def switchName : Bool → Text
  | true => text "1"
  | false => text "0"

/-- What the text of a variable means. -/
def Means : (which : Variable) → Text → which.Field → Prop
  | mode, written, meant => written = meant.name
  | port, written, meant => written.CountsAs meant ∧ meant.IsWholeWithin 0 65535
  | lexer, written, meant => written = meant.name
  | precision, written, meant =>
    ∃ number, meant = .number number ∧ written.CountsAs number ∧ number.IsWholeWithin 1 1000
  | rounding, written, meant => ∃ chosen, meant = .mode chosen ∧ written = chosen.name
  | audit, written, meant => written = switchName meant

/-- The text is one that the variable may have. -/
def Accepts
    (which : Variable)
    (written : Text) :
    Prop :=
  ∃ meant, which.Means written meant

/-- A variable that is missing leaves the field as it is in the empty environment. -/
def Gives (which : Variable) : Option Text → which.Field → Prop
  | none, given => given = which.field .standard
  | some written, given => which.Means written given

/-! ## The schema of a variable -/

/-- The port is a whole number of 16 bits. -/
def portRule : NumberRule :=
  { coerced := true, integer := true, minimum := some 0, maximum := some 65535 }

/-- The number of digits is given as a text. -/
def precisionRule : NumberRule :=
  { Schema.digitRule with coerced := true }

/-- What a variable is read by. -/
def schema : Variable → Schema
  | mode =>
    .withDefault (.choice (ServiceMode.all.map ServiceMode.name)) (.string ServiceMode.both.name)
  | port => .withDefault (.number portRule) (.nat 3001)
  | lexer =>
    .withDefault (.choice (LexerMode.all.map LexerMode.name)) (.string LexerMode.whitespace.name)
  | precision => .withDefault (.number precisionRule) (.nat Context.standardPrecision)
  | rounding =>
    .withDefault (.choice (RoundingMode.all.map RoundingMode.name))
      (.string RoundingMode.standard.name)
  | audit => .withDefault (.choice ([false, true].map switchName)) (.string (switchName true))

/-- The fields of the schema of an environment. -/
def fields : List (Text × Schema) :=
  all.map fun which => (which.name, which.schema)

theorem environment_eq : Schema.environment = .record fields := rfl

theorem fields_nodup : (fields.map Prod.fst).Nodup := by
  decide

theorem mem_all (which : Variable) : which ∈ all := by
  cases which <;> decide

/-- There is one field for each variable. -/
theorem forall_fields_iff
    {holds : Text × Schema → Prop} :
    (∀ field ∈ fields, holds field) ↔ ∀ which, holds (name which, schema which) := by
  rw [fields, List.forall_mem_map]
  exact ⟨fun each which => each which which.mem_all, fun each which _ => each which⟩

/-- The field that is for a variable, as settings take it from data. -/
def ofData : (which : Variable) → Option Json → which.Field
  | mode, data => ((data.bind Json.text?).bind ServiceMode.ofName?).getD .both
  | port, data => (data.bind Json.number?).getD (.ofNat 3001)
  | lexer, data => ((data.bind Json.text?).bind LexerMode.ofName?).getD .whitespace
  | precision, data =>
    .number ((data.bind Json.number?).getD (.ofNat Context.standardPrecision))
  | rounding, data =>
    .mode (((data.bind Json.text?).bind RoundingMode.ofName?).getD .standard)
  | audit, data => data.bind Json.text? == some (text "1")

theorem field_ofData
    (which : Variable)
    (members : List (Text × Json)) :
    which.field (.ofData (.object members)) = which.ofData (Json.lookup members which.name) := by
  cases which <;> rfl

theorem simple_schema (which : Variable) : which.schema.Simple := by
  cases which with
  | mode => exact .withDefault (.choice _)
  | port => exact .withDefault (.number _)
  | lexer => exact .withDefault (.choice _)
  | precision => exact .withDefault (.number _)
  | rounding => exact .withDefault (.choice _)
  | audit => exact .withDefault (.choice _)

/-- Every default passes its own check, and stands for the field of the empty environment. -/
theorem read_missing (which : Variable) :
    ∃ data, which.schema.read none = .ok data ∧ which.ofData data = which.field .standard := by
  cases which <;> exact ⟨_, rfl, rfl⟩

/-! ## What the schema makes of a text -/

section

variable
    {written : Text}
    {data : Option Json}

/-- A text is read as it stands if it is one of the names. -/
theorem read_named_iff
    {α : Type}
    {all : List α}
    {name : α → Text}
    (complete : ∀ one, one ∈ all)
    (substitute : Json) :
    (Schema.withDefault (.choice (all.map name)) substitute).read (some (.string written))
        = .ok data ↔
      ∃ one, written = name one ∧ data = some (.string (name one)) := by
  rw [Schema.read_withDefault, Option.getD_some]
  constructor
  · intro accepted
    rcases Schema.read_choice_ok accepted with ⟨chosen, member, found, rfl⟩
    rcases List.mem_map.mp member with ⟨one, _, rfl⟩
    cases found
    exact ⟨one, rfl, rfl⟩
  · rintro ⟨one, rfl, rfl⟩
    exact Schema.keeps_choice (List.mem_map_of_mem (complete one))

/-- A text is read as the number that it counts as, if that is a whole one within the bounds. -/
theorem read_counted_iff
    {rule : NumberRule}
    {low high : Nat}
    (bounds : rule.Bounds low high)
    (coerced : rule.coerced = true)
    (substitute : Json) :
    (Schema.withDefault (.number rule) substitute).read (some (.string written)) = .ok data ↔
      ∃ number, data = some (.number number) ∧
        written.CountsAs number ∧ number.IsWholeWithin low high := by
  have counted : rule.input (some (.string written)) = some (.number (Double.ofText written)) := by
    rw [NumberRule.input, coerced, if_pos rfl]
    rfl
  rw [Schema.read_withDefault, Option.getD_some, bounds.read_ok_iff, counted]
  constructor
  · rintro ⟨number, same, rfl, within⟩
    cases same
    exact ⟨_, rfl, Text.countsAs_iff.mpr rfl, within⟩
  · rintro ⟨number, rfl, counts, within⟩
    exact ⟨number, by rw [Text.countsAs_iff.mp counts], rfl, within⟩

theorem bounds_portRule : portRule.Bounds 0 65535 := ⟨rfl, rfl, rfl⟩

theorem bounds_precisionRule : precisionRule.Bounds 1 1000 := ⟨rfl, rfl, rfl⟩

theorem switch_mem (on : Bool) : on ∈ [false, true] := by
  cases on <;> decide

/-- What is read is for the field that the text means. -/
theorem means_of_read
    {which : Variable}
    (accepted : which.schema.read (some (.string written)) = .ok data) :
    which.Means written (which.ofData data) := by
  cases which with
  | mode =>
    rcases (read_named_iff ServiceMode.mem_all _).mp accepted with ⟨mode, rfl, rfl⟩
    simp [Means, ofData, Json.text?, ServiceMode.ofName?_name]
  | port =>
    rcases (read_counted_iff bounds_portRule rfl _).mp accepted with ⟨number, rfl, counts, within⟩
    exact ⟨counts, within⟩
  | lexer =>
    rcases (read_named_iff LexerMode.mem_all _).mp accepted with ⟨mode, rfl, rfl⟩
    simp [Means, ofData, Json.text?, LexerMode.ofName?_name]
  | precision =>
    rcases (read_counted_iff bounds_precisionRule rfl _).mp accepted with
      ⟨number, rfl, counts, within⟩
    exact ⟨number, rfl, counts, within⟩
  | rounding =>
    rcases (read_named_iff RoundingMode.mem_all _).mp accepted with ⟨mode, rfl, rfl⟩
    simp [Means, ofData, Json.text?, RoundingMode.ofName?_name]
  | audit =>
    rcases (read_named_iff switch_mem _).mp accepted with ⟨on, rfl, rfl⟩
    cases on <;> rfl

/-- What means something is read. -/
theorem read_of_means
    {which : Variable}
    {meant : which.Field}
    (means : which.Means written meant) :
    ∃ data, which.schema.read (some (.string written)) = .ok data := by
  cases which with
  | mode => exact ⟨_, (read_named_iff ServiceMode.mem_all _).mpr ⟨meant, means, rfl⟩⟩
  | port =>
    exact ⟨_, (read_counted_iff bounds_portRule rfl _).mpr ⟨meant, rfl, means⟩⟩
  | lexer => exact ⟨_, (read_named_iff LexerMode.mem_all _).mpr ⟨meant, means, rfl⟩⟩
  | precision =>
    rcases means with ⟨number, _, means⟩
    exact ⟨_, (read_counted_iff bounds_precisionRule rfl _).mpr ⟨number, rfl, means⟩⟩
  | rounding =>
    rcases means with ⟨mode, _, named⟩
    exact ⟨_, (read_named_iff RoundingMode.mem_all _).mpr ⟨mode, named, rfl⟩⟩
  | audit => exact ⟨_, (read_named_iff switch_mem _).mpr ⟨meant, means, rfl⟩⟩

/-- A variable that is missing or means something is accepted, and no other one. -/
theorem read_ok_iff
    {which : Variable}
    {value : Option Text} :
    (∃ data, which.schema.read (value.map .string) = .ok data) ↔
      ∀ written ∈ value, which.Accepts written := by
  cases value with
  | none =>
    rcases which.read_missing with ⟨data, missing, _⟩
    exact iff_of_true ⟨data, missing⟩ nofun
  | some written =>
    constructor
    · rintro ⟨data, accepted⟩ _ ⟨⟩
      exact ⟨_, means_of_read accepted⟩
    · intro accepts
      rcases accepts written rfl with ⟨meant, means⟩
      exact read_of_means means

/-- The data of an accepted variable give its field. -/
theorem gives_of_read
    {which : Variable}
    {value : Option Text}
    (accepted : which.schema.read (value.map .string) = .ok data) :
    which.Gives value (which.ofData data) := by
  cases value with
  | none =>
    rcases which.read_missing with ⟨found, missing, standard⟩
    rw [Option.map_none, missing] at accepted
    cases accepted
    exact standard
  | some written => exact means_of_read accepted

end

/-! ## One meaning for each text -/

theorem name_injective
    {α : Type}
    {name : α → Text}
    {ofName? : Text → Option α}
    (inverse : ∀ one, ofName? (name one) = some one) :
    Function.Injective name := by
  intro first second same
  have found := inverse first
  rw [same, inverse second] at found
  exact (Option.some.inj found).symm

theorem Means.unique
    {which : Variable}
    {written : Text}
    {first second : which.Field}
    (meansFirst : which.Means written first)
    (meansSecond : which.Means written second) :
    first = second := by
  cases which with
  | mode => exact name_injective ServiceMode.ofName?_name (meansFirst.symm.trans meansSecond)
  | port =>
    exact (Text.countsAs_iff.mp meansFirst.1).symm.trans (Text.countsAs_iff.mp meansSecond.1)
  | lexer => exact name_injective LexerMode.ofName?_name (meansFirst.symm.trans meansSecond)
  | precision =>
    rcases meansFirst with ⟨number, rfl, counts, _⟩
    rcases meansSecond with ⟨other, rfl, countsOther, _⟩
    rw [← Text.countsAs_iff.mp counts, ← Text.countsAs_iff.mp countsOther]
  | rounding =>
    rcases meansFirst with ⟨mode, rfl, named⟩
    rcases meansSecond with ⟨other, rfl, namedOther⟩
    rw [name_injective RoundingMode.ofName?_name (named.symm.trans namedOther)]
  | audit =>
    have injective : Function.Injective switchName := by
      intro first second
      cases first <;> cases second <;> decide
    exact injective (meansFirst.symm.trans meansSecond)

/-- A variable gives one field only. -/
theorem Gives.unique
    {which : Variable}
    {value : Option Text}
    {first second : which.Field}
    (givesFirst : which.Gives value first)
    (givesSecond : which.Gives value second) :
    first = second := by
  cases value with
  | none => exact Eq.trans givesFirst (Eq.symm givesSecond)
  | some written => exact Means.unique givesFirst givesSecond

end Variable

end InfixCalc
