import InfixCalc.Proofs.Schema.Read
import InfixCalc.Schema.Catalog

/-!
# Data are read as they stand

Reading may fill in defaults, count one kind of value as another and leave members out.
The data that come of it need none of that any more: the same schema accepts them and reads
them as they stand.  A schema has to be regular for this, which all schemas of the service
are: no two fields share a name, and no form has a field of the name that tells forms apart.
-/

namespace InfixCalc.Schema

variable
    {value data : Option Json}

/-! ## What has been accepted -/

theorem read_choices_ok
    {groups : List (List Text)}
    (accepted : (choices groups).read value = .ok data) :
    ∃ written, value = some (.string written) ∧ data = value := by
  rw [read_choices] at accepted
  unfold readChoices at accepted
  split at accepted
  · rename_i written
    split at accepted
    · cases accepted
      exact ⟨written, rfl, rfl⟩
    · cases accepted
  · cases accepted

theorem read_number_ok_ne_nan
    {rule : NumberRule}
    (accepted : (number rule).read value = .ok data) :
    data ≠ some (.number .nan) := by
  rintro rfl
  rcases read_number_ok accepted with ⟨number, found, same, _⟩
  cases same
  rw [read_number, NumberRule.read, found] at accepted
  cases accepted

theorem read_nullable_ok_iff
    {schema : Schema} :
    (nullable schema).read value = .ok data ↔
      (value = some .null ∧ data = some .null) ∨
        (value ≠ some .null ∧ schema.read value = .ok data) := by
  by_cases isNull : value = some .null
  · subst isNull
    change Except.ok (some Json.null) = .ok data ↔ _
    constructor
    · rintro ⟨⟩
      exact .inl ⟨rfl, rfl⟩
    · rintro (⟨_, rfl⟩ | ⟨given, _⟩)
      · rfl
      · exact absurd rfl given
  · have same : (nullable schema).read value = schema.read value := by
      cases value with
      | none => rfl
      | some given =>
        cases given with
        | null => exact absurd rfl isNull
        | _ => rfl
    rw [same]
    simp [isNull]

theorem read_withDefault
    (schema : Schema)
    (substitute : Json)
    (value : Option Json) :
    (withDefault schema substitute).read value = schema.read (some (value.getD substitute)) := rfl

theorem read_tagged_ok
    {tag : Text}
    {forms : List (Text × Schema)}
    (accepted : (tagged tag forms).read value = .ok data) :
    ∃ members name read,
      value = some (.object members) ∧
        Json.lookup members tag = some (.string name) ∧
        readForm (forms.map Prod.fst) tag name forms members = .ok read ∧
        data = some (.object ((tag, .string name) :: read)) := by
  simp only [read] at accepted
  split at accepted
  · rename_i members
    split at accepted
    · rename_i name named
      cases formRead : readForm (forms.map Prod.fst) tag name forms members with
      | ok read =>
        rw [formRead] at accepted
        cases accepted
        exact ⟨members, name, read, rfl, named, formRead, rfl⟩
      | error issues =>
        rw [formRead] at accepted
        cases accepted
    · cases accepted
  · cases accepted

/-- The form that was read has the name. -/
theorem readForm_ok
    {tags : List Text}
    {tag name : Text}
    {forms : List (Text × Schema)}
    {members read : List (Text × Json)}
    (formsAreRecords : ∀ form ∈ forms, ∃ fields, form.2 = record fields)
    (accepted : readForm tags tag name forms members = .ok read) :
    ∃ fields, (name, record fields) ∈ forms ∧ readFields fields members = .ok read := by
  induction forms with
  | nil => cases accepted
  | cons first rest inner =>
    rcases first with ⟨form, schema⟩
    rcases List.forall_mem_cons.mp formsAreRecords with ⟨⟨fields, isRecord⟩, others⟩
    cases isRecord
    by_cases same : form = name
    · subst same
      rw [readForm_cons_self, read_record] at accepted
      cases fieldsRead : readFields fields members with
      | ok data =>
        rw [fieldsRead] at accepted
        cases accepted
        exact ⟨fields, List.mem_cons_self, fieldsRead⟩
      | error issues =>
        rw [fieldsRead] at accepted
        cases accepted
    · rw [readForm_cons_of_ne same] at accepted
      rcases inner others accepted with ⟨laterFields, later, laterRead⟩
      exact ⟨laterFields, .tail _ later, laterRead⟩

/-- Only the members that the fields name are read. -/
theorem readFields_congr
    {fields : List (Text × Schema)}
    {members others : List (Text × Json)}
    (same : ∀ field ∈ fields,
      field.2.read (Json.lookup members field.1) = field.2.read (Json.lookup others field.1)) :
    readFields fields members = readFields fields others := by
  induction fields with
  | nil => rfl
  | cons field rest inner =>
    rcases field with ⟨name, schema⟩
    rcases List.forall_mem_cons.mp same with ⟨first, later⟩
    rw [readFields_cons, readFields_cons, inner later, first]

theorem mem_of_lookup
    {schemas : List (Text × Schema)}
    {name : Text}
    {schema : Schema}
    (found : schemas.lookup name = some schema) :
    (name, schema) ∈ schemas := by
  rcases List.lookup_eq_some_iff.mp found with ⟨before, after, rfl, _⟩
  exact List.mem_append_right _ List.mem_cons_self

/-! ## Regular schemas -/

/-- A form that a tag can tell from others: a record without a field of that name. -/
def IsForm
    (tag : Text)
    (schema : Schema) :
    Prop :=
  ∃ fields, schema = record fields ∧ tag ∉ fields.map Prod.fst

/-- No name stands for two things. -/
inductive Regular : Schema → Prop where
  | string (longest : Option Nat) : Regular (.string longest)
  | number (rule : NumberRule) : Regular (.number rule)
  | choice (names : List Text) : Regular (.choice names)
  | choices (groups : List (List Text)) : Regular (.choices groups)
  | array
      {item : Schema} :
      Regular item →
      Regular (.array item)
  | record
      {fields : List (Text × Schema)} :
      (fields.map Prod.fst).Nodup →
      (∀ field ∈ fields, Regular field.2) →
      Regular (.record fields)
  | tagged
      {tag : Text}
      {forms : List (Text × Schema)} :
      (forms.map Prod.fst).Nodup →
      (∀ form ∈ forms, IsForm tag form.2) →
      (∀ form ∈ forms, Regular form.2) →
      Regular (.tagged tag forms)
  | optional
      {schema : Schema} :
      Regular schema →
      Regular (.optional schema)
  | nullable
      {schema : Schema} :
      Regular schema →
      Regular (.nullable schema)
  | withDefault
      {schema : Schema}
      {substitute : Json} :
      Regular schema →
      Regular (.withDefault schema substitute)

/-- What is read of a value that is there is there too. -/
theorem Regular.exists_of_read
    {schema : Schema}
    {given : Json}
    (regular : schema.Regular)
    (accepted : schema.read (some given) = .ok data) :
    ∃ found, data = some found := by
  induction regular with
  | string longest =>
    rcases read_string_ok accepted with ⟨_, _, same, _⟩
    exact ⟨given, same⟩
  | number rule =>
    rcases read_number_ok accepted with ⟨_, _, same, _⟩
    exact ⟨_, same⟩
  | choice names =>
    rcases read_choice_ok accepted with ⟨_, _, _, same⟩
    exact ⟨given, same⟩
  | choices groups =>
    rcases read_choices_ok accepted with ⟨_, _, same⟩
    exact ⟨given, same⟩
  | array _ _ =>
    rcases read_array_ok accepted with ⟨_, _, _, same, _⟩
    exact ⟨_, same⟩
  | record _ _ _ =>
    rcases read_record_ok accepted with ⟨_, _, _, same, _⟩
    exact ⟨_, same⟩
  | tagged _ _ _ _ =>
    rcases read_tagged_ok accepted with ⟨_, _, _, _, _, _, same⟩
    exact ⟨_, same⟩
  | optional _ inner => exact inner accepted
  | nullable _ inner =>
    rcases read_nullable_ok_iff.mp accepted with ⟨_, same⟩ | ⟨_, isRead⟩
    · exact ⟨_, same⟩
    · exact inner isRead
  | withDefault _ inner => exact inner accepted

/-- The members that were read stand in the order of the fields and are read as they stand. -/
theorem fits_readFields
    {fields : List (Text × Schema)}
    {members read : List (Text × Json)}
    (again : ∀ field ∈ fields, ∀ value data,
      field.2.read value = .ok data → field.2.read data = .ok data)
    (accepted : readFields fields members = .ok read) :
    Fits fields read := by
  induction fields generalizing read with
  | nil =>
    rw [readFields_nil] at accepted
    cases accepted
    exact .nil
  | cons field rest inner =>
    rcases field with ⟨name, schema⟩
    rcases List.forall_mem_cons.mp again with ⟨first, others⟩
    rcases readFields_cons_ok accepted with ⟨data, laterRead, firstRead, later, rfl⟩
    have kept := first _ _ firstRead
    cases data with
    | none => exact .missing kept (inner others later)
    | some found => exact .present kept (inner others later)

/-- Data that a regular schema has read it accepts, and reads as they stand. -/
theorem Regular.read_data
    {schema : Schema}
    (regular : schema.Regular)
    (accepted : schema.read value = .ok data) :
    schema.read data = .ok data := by
  induction regular generalizing value data with
  | string longest =>
    rcases read_string_ok accepted with ⟨_, _, rfl, _⟩
    exact accepted
  | number rule =>
    have isNumber := read_number_ok_ne_nan accepted
    rcases read_number_ok accepted with ⟨number, found, rfl, fine⟩
    have again : rule.input (some (.number number)) = some (.number number) := by
      rw [NumberRule.input]
      split <;> rfl
    apply read_number_of_fine again _ fine
    rintro rfl
    exact isNumber rfl
  | choice names =>
    rcases read_choice_ok accepted with ⟨_, _, _, rfl⟩
    exact accepted
  | choices groups =>
    rcases read_choices_ok accepted with ⟨_, _, rfl⟩
    exact accepted
  | array _ inner =>
    rcases read_array_ok accepted with ⟨items, read, rfl, rfl, itemsRead⟩
    apply keeps_array
    intro found member
    rcases readItems_ok itemsRead found member with ⟨item, _, itemRead⟩
    exact inner itemRead
  | record distinct _ inner =>
    rcases read_record_ok accepted with ⟨members, read, rfl, rfl, fieldsRead⟩
    apply keeps_record distinct
    exact fits_readFields (fun field member _ _ => inner field member) fieldsRead
  | @tagged tag forms distinct areForms _ inner =>
    rcases read_tagged_ok accepted with ⟨members, name, read, rfl, named, formRead, rfl⟩
    have areRecords : ∀ form ∈ forms, ∃ fields, form.2 = .record fields := by
      intro form member
      rcases areForms form member with ⟨fields, isRecord, _⟩
      exact ⟨fields, isRecord⟩
    rcases readForm_ok areRecords formRead with ⟨fields, form, fieldsRead⟩
    rcases areForms _ form with ⟨_, ⟨⟩, apart⟩
    have recordRead : (Schema.record fields).read (some (.object members))
        = .ok (some (.object read)) := by
      rw [read_record, fieldsRead]
      rfl
    -- The tag stands in front of the members that were read, and no field asks for it.
    have once : tag ∉ read.map Prod.fst :=
      fun member => apart ((names_readFields fieldsRead).subset member)
    have tagIgnored : readFields fields ((tag, .string name) :: read) = readFields fields read := by
      apply readFields_congr
      intro field member
      have different : field.1 ∉ [(tag, Json.string name)].map Prod.fst := by
        rw [List.map_singleton, List.mem_singleton]
        intro same
        have named : field.1 = tag := same
        exact apart (named ▸ List.mem_map_of_mem member)
      rw [← List.singleton_append, Json.lookup_append, Json.lookup_eq_none different,
        Option.or_none]
    have again := inner _ form recordRead
    rw [read_record, ← tagIgnored, ← read_record] at again
    rw [read_tagged (Json.lookup_cons_self once), readForm_of_mem distinct form again]
    rfl
  | optional isRegular inner =>
    rcases read_optional_ok accepted with ⟨rfl, rfl⟩ | ⟨given, rfl, isRead⟩
    · exact accepted
    · rcases isRegular.exists_of_read isRead with ⟨found, rfl⟩
      exact inner isRead
  | nullable _ inner =>
    rcases read_nullable_ok_iff.mp accepted with ⟨rfl, rfl⟩ | ⟨_, isRead⟩
    · rfl
    · by_cases isNull : data = some .null
      · exact read_nullable_ok_iff.mpr (.inl ⟨isNull, isNull⟩)
      · exact read_nullable_ok_iff.mpr (.inr ⟨isNull, inner isRead⟩)
  | withDefault isRegular inner =>
    rw [read_withDefault] at accepted
    rcases isRegular.exists_of_read accepted with ⟨found, rfl⟩
    exact inner accepted

/-! ## The schemas of the service -/

theorem regular_evalOptions : evalOptions.Regular := by
  apply Regular.record (by decide)
  simp only [List.forall_mem_cons]
  exact ⟨.optional (.choice _), .optional (.number _), .optional (.choice _), nofun⟩

theorem regular_evalInput : evalInput.Regular := by
  apply Regular.record (by decide)
  simp only [List.forall_mem_cons]
  exact ⟨.string _, .optional regular_evalOptions, nofun⟩

theorem regular_diagnostic : diagnostic.Regular := by
  apply Regular.record (by decide)
  simp only [List.forall_mem_cons]
  exact ⟨.choices _, .string _, .optional (.number _), .choice _, nofun⟩

theorem regular_traceStep : traceStep.Regular := by
  apply Regular.tagged (by decide)
  · simp only [List.forall_mem_cons]
    exact ⟨⟨_, rfl, by decide⟩, ⟨_, rfl, by decide⟩, nofun⟩
  · simp only [List.forall_mem_cons]
    refine ⟨.record (by decide) ?_, .record (by decide) ?_, nofun⟩
    · simp only [snapshotFields, List.forall_mem_append, List.forall_mem_cons]
      exact ⟨⟨.string _, .number _, nofun⟩, .array (.string _), .array (.string _), nofun⟩
    · simp only [snapshotFields, List.forall_mem_append, List.forall_mem_cons]
      exact ⟨⟨.choice _, .number _, .string _, .string _, .string _, nofun⟩,
        .array (.string _), .array (.string _), nofun⟩

theorem regular_evalOutput : evalOutput.Regular := by
  have performance : (Schema.record [(text "durationMs", .number {})]).Regular := by
    apply Regular.record (by decide)
    rw [List.forall_mem_singleton]
    exact .number _
  apply Regular.record (by decide)
  simp only [List.forall_mem_cons]
  exact ⟨.nullable (.string _), .array regular_diagnostic, .optional (.array regular_traceStep),
    performance, nofun⟩

theorem regular_environment : environment.Regular := by
  apply Regular.record (by decide)
  simp only [List.forall_mem_cons]
  exact ⟨.withDefault (.choice _), .withDefault (.number _), .withDefault (.choice _),
    .withDefault (.number _), .withDefault (.choice _), .withDefault (.choice _), nofun⟩

end InfixCalc.Schema
