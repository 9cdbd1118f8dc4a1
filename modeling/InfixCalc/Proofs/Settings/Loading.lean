import InfixCalc.Proofs.Settings.Variables

/-!
# Loading settings from variables

Each field of the settings is read from its own variable, and from nothing else.  There are
settings just if every variable is missing or has a text that means something; otherwise
what is reported names all other variables, in their order, and none of these.
-/

namespace InfixCalc

namespace Environment

/-- The variable is missing or has a text that it may have. -/
def Admits
    (environment : Environment)
    (which : Variable) :
    Prop :=
  ∀ written ∈ environment.value? which.name, which.Accepts written

/-- The environment as the members of an object. -/
def members (environment : Environment) : List (Text × Json) :=
  environment.map fun entry => (entry.1, .string entry.2)

theorem lookup_members
    (environment : Environment)
    (name : Text) :
    Json.lookup environment.members name = (environment.value? name).map .string := by
  rw [Json.lookup, members, ← List.map_reverse, List.find?_map, value?, Option.map_map,
    Option.map_map]
  rfl

end Environment

namespace Settings

variable
    {environment : Environment}
    {settings : Settings}

theorem load?_eq (environment : Environment) :
    load? environment =
      ((Schema.record Variable.fields).read (some (.object environment.members))).map
        fun data => ofData (data.getD .null) := by
  rw [← Variable.environment_eq]
  rfl

/-! ## Success -/

/-- The variables are accepted one by one. -/
theorem load?_ok_iff :
    (∃ settings, load? environment = .ok settings) ↔ ∀ which, environment.Admits which := by
  have accepted : (∃ settings, load? environment = .ok settings) ↔
      (Schema.record Variable.fields).accepts (.object environment.members) = true := by
    rw [Schema.accepts_iff, load?_eq, Issue.exists_map_eq_ok_iff]
  rw [accepted, Schema.accepts_record_iff Variable.fields_nodup]
  simp only [Json.object.injEq, exists_eq_left', Environment.lookup_members]
  rw [Variable.forall_fields_iff]
  exact forall_congr' fun which => Variable.read_ok_iff

/-- Each field is the one that its variable gives. -/
theorem gives_of_load?
    (loaded : load? environment = .ok settings)
    (which : Variable) :
    which.Gives (environment.value? which.name) (which.field settings) := by
  rw [load?_eq] at loaded
  cases accepted : (Schema.record Variable.fields).read (some (.object environment.members)) with
  | error issues =>
    rw [accepted] at loaded
    cases loaded
  | ok data =>
    rw [accepted] at loaded
    cases loaded
    rcases Schema.read_record_ok accepted with ⟨members, read, isObject, rfl, fieldsRead⟩
    cases isObject
    -- The names differ, so the data hold under each of them what its own field was read as.
    have member : (which.name, which.schema) ∈ Variable.fields := List.mem_map_of_mem which.mem_all
    have fieldRead := Schema.readFields_lookup Variable.fields_nodup fieldsRead member
    rw [Environment.lookup_members] at fieldRead
    have isField := which.field_ofData read
    dsimp only [Option.getD_some]
    rw [isField]
    exact Variable.gives_of_read fieldRead

/-- Only the six variables are looked at. -/
theorem load?_congr
    {other : Environment}
    (same : ∀ which : Variable, environment.value? which.name = other.value? which.name) :
    load? environment = load? other := by
  have alike : Schema.readFields Variable.fields environment.members
      = Schema.readFields Variable.fields other.members := by
    apply Schema.readFields_congr
    rw [Variable.forall_fields_iff]
    intro which
    rw [Environment.lookup_members, Environment.lookup_members, same which]
  rw [load?_eq, load?_eq, Schema.read_record, Schema.read_record, alike]

/-! ## Failure -/

/-- How often a variable is reported. -/
def reports
    (environment : Environment)
    (which : Variable) :
    Nat :=
  (which.schema.issues ((environment.value? which.name).map .string)).length

/-- A variable is reported if it is not admitted. -/
theorem reports_pos_iff
    {which : Variable} :
    0 < reports environment which ↔ ¬ environment.Admits which := by
  rw [reports, List.length_pos_iff, ne_eq, which.simple_schema.issues_eq_nil_iff,
    Variable.read_ok_iff]
  rfl

/-- The issues name the variables that are reported, in the order of the schema. -/
theorem paths_of_load?
    {issues : List Issue}
    (refused : load? environment = .error issues) :
    issues.map Issue.path =
      Variable.all.flatMap fun which =>
        List.replicate (reports environment which) [.member which.name] := by
  have found :
      (Schema.record Variable.fields).issues (some (.object environment.members)) = issues := by
    rw [load?_eq] at refused
    rw [Schema.issues, ← Issue.reported_map fun data => ofData (data.getD .null), refused]
    rfl
  have simple : ∀ field ∈ Variable.fields, field.2.Simple := by
    rw [Variable.forall_fields_iff]
    exact Variable.simple_schema
  rw [← found, Schema.paths_issues_record simple, Variable.fields, List.flatMap_map]
  simp only [Environment.lookup_members]
  rfl

/-! ## Variables on their own -/

/--
Variables are loaded on their own.  There are settings just if each variable is admitted, and
then each field is what its variable gives, so that it stays the same while the variable does.
Variables of other names do not count.  If a variable is not admitted there is a report, whose
issues name all such variables and no others, one after the other.
-/
theorem variables_loaded_separately :
    (∀ environment,
      (∃ settings, load? environment = .ok settings) ↔ ∀ which, environment.Admits which) ∧
    (∀ environment settings,
      load? environment = .ok settings →
      ∀ which : Variable, which.Gives (environment.value? which.name) (which.field settings)) ∧
    (∀ first second firstSettings secondSettings,
      load? first = .ok firstSettings →
      load? second = .ok secondSettings →
      ∀ which : Variable,
        first.value? which.name = second.value? which.name →
        which.field firstSettings = which.field secondSettings) ∧
    (∀ first second : Environment,
      (∀ which : Variable, first.value? which.name = second.value? which.name) →
      load? first = load? second) ∧
    ∀ environment,
      (¬ ∀ which, environment.Admits which) →
      ∃ issues,
        load? environment = .error issues ∧
          ∃ times : Variable → Nat,
            (∀ which, 0 < times which ↔ ¬ environment.Admits which) ∧
              issues.map Issue.path =
                Variable.all.flatMap fun which =>
                  List.replicate (times which) [.member which.name] := by
  refine ⟨fun environment => load?_ok_iff, fun environment settings => gives_of_load?, ?_,
    fun first second => load?_congr, ?_⟩
  · intro first second firstSettings secondSettings firstLoaded secondLoaded which same
    have givesFirst := gives_of_load? firstLoaded which
    have givesSecond := gives_of_load? secondLoaded which
    rw [same] at givesFirst
    exact givesFirst.unique givesSecond
  · intro environment notAll
    cases result : load? environment with
    | ok settings => exact absurd (load?_ok_iff.mp ⟨settings, result⟩) notAll
    | error issues =>
      exact ⟨issues, rfl, reports environment, fun which => reports_pos_iff, paths_of_load? result⟩

/-- Two environments with one port, in another base, and an environment with a port below zero. -/
theorem variables_loaded_separately_ports :
    let port : Text × Text := (text "PORT", text " 0x50 ")
    let first : Environment := [port, (text "MODE", text "http")]
    let second : Environment := [(text "STACKCALC_AUDIT", text "0"), port]
    let wrong : Environment := [(text "STACKCALC_AUDIT", text "yes"), (text "PORT", text "-0.5")]
    let firstSettings : Settings := { standard with mode := .http, port := .ofNat 80 }
    let secondSettings : Settings := { standard with port := .ofNat 80, audit := false }
    load? first = .ok firstSettings ∧
      load? second = .ok secondSettings ∧
      Variable.port.Gives (some (text " 0x50 ")) firstSettings.port ∧
      firstSettings.port = secondSettings.port ∧
      load? ((text "HOME", text "/") :: first) = load? first ∧
      ∃ issues,
        load? wrong = .error issues ∧
          ∃ times : Variable → Nat,
            0 < times .port ∧
              times .mode = 0 ∧
              issues.map Issue.path =
                Variable.all.flatMap fun which =>
                  List.replicate (times which) [.member which.name] := by
  intro port first second wrong firstSettings secondSettings
  rcases variables_loaded_separately with ⟨_, gives, kept, others, reported⟩
  have firstLoaded : load? first = .ok firstSettings := by decide +kernel
  have secondLoaded : load? second = .ok secondSettings := by decide +kernel
  refine ⟨firstLoaded, secondLoaded, gives _ _ firstLoaded .port,
    kept _ _ _ _ firstLoaded secondLoaded .port rfl,
    others _ first fun which => by cases which <;> decide +kernel, ?_⟩
  have admitsMode : wrong.Admits .mode := nofun
  have refusesPort : ¬ wrong.Admits .port := by
    intro admits
    rcases Variable.read_ok_iff.mpr admits with ⟨data, accepted⟩
    cases accepted
  rcases reported wrong (fun admits => refusesPort (admits .port)) with
    ⟨issues, result, times, named, paths⟩
  exact ⟨issues, result, times, (named .port).mpr refusesPort,
    Nat.eq_zero_of_not_pos fun reported => (named .mode).mp reported admitsMode, paths⟩

end Settings

end InfixCalc
