import InfixCalc.Schema

/-!
# Values that a schema keeps

A schema may fill in defaults and leave members out.  A value that it keeps is
accepted and read as it stands.  For records this is so if the members come in the
order of the fields, each under its own name, and only members that may be missing
are missing.
-/

namespace InfixCalc

namespace Json

theorem lookup_append
    (first second : List (Text × Json))
    (name : Text) :
    lookup (first ++ second) name = (lookup second name).or (lookup first name) := by
  rw [lookup, List.reverse_append, List.find?_append, Option.map_or]
  rfl

theorem lookup_eq_none
    {members : List (Text × Json)}
    {name : Text}
    (absent : name ∉ members.map Prod.fst) :
    lookup members name = none := by
  rw [lookup, Option.map_eq_none_iff, List.find?_eq_none]
  intro member found same
  rw [← eq_of_beq same] at absent
  exact absent (List.mem_map_of_mem (List.mem_reverse.mp found))

theorem lookup_cons_self
    {name : Text}
    {value : Json}
    {rest : List (Text × Json)}
    (once : name ∉ rest.map Prod.fst) :
    lookup ((name, value) :: rest) name = some value := by
  rw [← List.singleton_append, lookup_append, lookup_eq_none once, Option.none_or]
  simp [lookup]

end Json

namespace Schema

/-! ## What each schema does -/

section Equations

variable
    {value : Option Json}
    {members : List (Text × Json)}

theorem read_string (longest : Option Nat) :
    (string longest).read value = readString longest value := rfl

theorem read_number (rule : NumberRule) : (number rule).read value = rule.read value := rfl

theorem read_choice (names : List Text) :
    (choice names).read value = readChoice names value := rfl

theorem read_choices (groups : List (List Text)) :
    (choices groups).read value = readChoices groups value := rfl

theorem read_array
    (item : Schema)
    (items : List Json) :
    (array item).read (some (.array items))
      = (readItems (fun value => item.read (some value)) 0 items).map
          fun data => some (.array data) := rfl

theorem read_record (fields : List (Text × Schema)) :
    (record fields).read (some (.object members))
      = (readFields fields members).map fun data => some (.object data) := rfl

theorem read_optional_none (schema : Schema) : (optional schema).read none = .ok none := rfl

theorem read_optional_some
    (schema : Schema)
    (value : Json) :
    (optional schema).read (some value) = schema.read (some value) := rfl

theorem read_tagged
    {tag name : Text}
    (named : Json.lookup members tag = some (.string name))
    (forms : List (Text × Schema)) :
    (tagged tag forms).read (some (.object members))
      = (readForm (forms.map Prod.fst) tag name forms members).map fun data =>
          some (.object ((tag, .string name) :: data)) := by
  simp only [read, named]

theorem readFields_nil : readFields [] members = .ok [] := rfl

theorem readFields_cons
    (name : Text)
    (schema : Schema)
    (rest : List (Text × Schema)) :
    readFields ((name, schema) :: rest) members =
      match schema.read (Json.lookup members name), readFields rest members with
      | .ok data, .ok others => .ok (data.toList.map (fun value => (name, value)) ++ others)
      | .ok _, .error issues => .error issues
      | .error issues, .ok _ => .error (issues.map (.under (.member name)))
      | .error issues, .error others =>
        .error (issues.map (.under (.member name)) ++ others) := rfl

theorem readForm_cons_self
    (tags : List Text)
    (tag name : Text)
    (schema : Schema)
    (rest : List (Text × Schema)) :
    readForm tags tag name ((name, schema) :: rest) members
      = (schema.read (some (.object members))).map fun data =>
          match data with
          | some (.object read) => read
          | _ => [] :=
  if_pos rfl

theorem readForm_cons_of_ne
    {form name : Text}
    (different : form ≠ name)
    (tags : List Text)
    (tag : Text)
    (schema : Schema)
    (rest : List (Text × Schema)) :
    readForm tags tag name ((form, schema) :: rest) members = readForm tags tag name rest members :=
  if_neg different

end Equations

/-- The value is accepted and read as it stands. -/
def Keeps
    (schema : Schema)
    (value : Json) :
    Prop :=
  schema.read (some value) = .ok (some value)

/-- The members are those of the fields in order, but for some that may be missing. -/
inductive Fits : List (Text × Schema) → List (Text × Json) → Prop where
  | nil : Fits [] []
  | present
      {name : Text}
      {schema : Schema}
      {value : Json}
      {fields : List (Text × Schema)}
      {members : List (Text × Json)} :
      schema.Keeps value →
      Fits fields members →
      Fits ((name, schema) :: fields) ((name, value) :: members)
  | missing
      {name : Text}
      {schema : Schema}
      {fields : List (Text × Schema)}
      {members : List (Text × Json)} :
      schema.read none = .ok none →
      Fits fields members →
      Fits ((name, schema) :: fields) members

/-! ## Single values -/

theorem keeps_string (written : Text) : (string none).Keeps (.string written) := by
  simp [Keeps, read_string, readString]

theorem keeps_string_of_le
    {longest : Nat}
    {written : Text}
    (short : written.length ≤ longest) :
    (string (some longest)).Keeps (.string written) := by
  simp only [Keeps, read_string, readString, Option.filter_some, Nat.not_lt.mpr short,
    decide_false, Bool.false_eq_true, if_false]

theorem keeps_choice
    {names : List Text}
    {name : Text}
    (member : name ∈ names) :
    (choice names).Keeps (.string name) := by
  simp [Keeps, read_choice, readChoice, member]

theorem keeps_choices
    {groups : List (List Text)}
    {names : List Text}
    {name : Text}
    (group : names ∈ groups)
    (member : name ∈ names) :
    (choices groups).Keeps (.string name) := by
  have found : groups.any (·.contains name) :=
    List.any_eq_true.mpr ⟨names, group, List.contains_iff_mem.mpr member⟩
  simp only [Keeps, read_choices, readChoices, found, if_true]

/-- A number about which the rule has nothing to complain is read. -/
theorem read_number_of_fine
    {rule : NumberRule}
    {value : Option Json}
    {number : Double}
    (found : rule.input value = some (.number number))
    (isNumber : number ≠ .nan)
    (fine : rule.complaints number = []) :
    (Schema.number rule).read value = .ok (some (.number number)) := by
  rw [read_number, NumberRule.read, found]
  cases number with
  | nan => exact absurd rfl isNumber
  | finite _ _ _ => simp [fine]
  | infinite _ => simp [fine]

theorem keeps_number
    {rule : NumberRule}
    {value : Double}
    (asIs : rule.coerced = false)
    (isNumber : value ≠ .nan)
    (fine : rule.complaints value = []) :
    (number rule).Keeps (.number value) := by
  apply read_number_of_fine _ isNumber fine
  rw [NumberRule.input, asIs, if_neg Bool.false_ne_true]

theorem keeps_optional
    {schema : Schema}
    {value : Json}
    (keeps : schema.Keeps value) :
    (optional schema).Keeps value := by
  rwa [Keeps, read_optional_some]

theorem keeps_nullable_null (schema : Schema) : (nullable schema).Keeps .null := rfl

theorem keeps_nullable_string
    {schema : Schema}
    {written : Text}
    (keeps : schema.Keeps (.string written)) :
    (nullable schema).Keeps (.string written) :=
  keeps

/-! ## Arrays and records -/

theorem readItems_kept
    {readItem : Json → Except (List Issue) (Option Json)}
    {items : List Json}
    (each : ∀ item ∈ items, readItem item = .ok (some item))
    (index : Nat) :
    readItems readItem index items = .ok items := by
  induction items generalizing index with
  | nil => rfl
  | cons item rest inner =>
    rcases List.forall_mem_cons.mp each with ⟨first, others⟩
    rw [readItems, first, inner others]
    rfl

theorem keeps_array
    {schema : Schema}
    {items : List Json}
    (each : ∀ item ∈ items, schema.Keeps item) :
    (array schema).Keeps (.array items) := by
  rw [Keeps, read_array, readItems_kept each]
  rfl

theorem Fits.names_sublist
    {fields : List (Text × Schema)}
    {members : List (Text × Json)}
    (fits : Fits fields members) :
    (members.map Prod.fst).Sublist (fields.map Prod.fst) := by
  induction fits with
  | nil => exact .slnil
  | present _ _ inner => exact inner.cons_cons _
  | missing _ _ inner => exact inner.cons _

/-- Members that stand in front count for nothing if no field has their names. -/
theorem Fits.readFields_append
    {fields : List (Text × Schema)}
    {members : List (Text × Json)}
    (fits : Fits fields members)
    (distinct : (fields.map Prod.fst).Nodup)
    (earlier : List (Text × Json))
    (apart : ∀ name ∈ fields.map Prod.fst, name ∉ earlier.map Prod.fst) :
    readFields fields (earlier ++ members) = .ok members := by
  -- A member that has been read joins those that stand in front of the others.
  induction fits generalizing earlier with
  | nil => exact readFields_nil
  | @present name schema value fields members keeps fits inner =>
    rcases List.nodup_cons.mp distinct with ⟨own, others⟩
    rcases List.forall_mem_cons.mp apart with ⟨_, othersApart⟩
    have once : name ∉ members.map Prod.fst := fun member => own (fits.names_sublist.subset member)
    have rest := inner others (earlier ++ [(name, value)]) <| by
      intro other member
      rw [List.map_append, List.mem_append, List.map_singleton, List.mem_singleton]
      rintro (before | same)
      · exact othersApart other member before
      · exact own (same ▸ member)
    rw [List.append_assoc, List.singleton_append] at rest
    rw [readFields_cons, Json.lookup_append, Json.lookup_cons_self once, rest, Option.some_or,
      keeps]
    rfl
  | @missing name schema fields members absent fits inner =>
    rcases List.nodup_cons.mp distinct with ⟨own, others⟩
    rcases List.forall_mem_cons.mp apart with ⟨ownApart, othersApart⟩
    have never : name ∉ members.map Prod.fst := fun member => own (fits.names_sublist.subset member)
    rw [readFields_cons, Json.lookup_append, Json.lookup_eq_none never,
      Json.lookup_eq_none ownApart, inner others earlier othersApart, Option.none_or, absent]
    rfl

theorem keeps_record
    {fields : List (Text × Schema)}
    {members : List (Text × Json)}
    (distinct : (fields.map Prod.fst).Nodup)
    (fits : Fits fields members) :
    (record fields).Keeps (.object members) := by
  have kept := fits.readFields_append distinct [] (by simp)
  rw [List.nil_append] at kept
  rw [Keeps, read_record, kept]
  rfl

/-- Of several forms the one with the name is read. -/
theorem readForm_of_mem
    {forms : List (Text × Schema)}
    {name : Text}
    {schema : Schema}
    {members data : List (Text × Json)}
    (distinct : (forms.map Prod.fst).Nodup)
    (form : (name, schema) ∈ forms)
    (reads : schema.read (some (.object members)) = .ok (some (.object data)))
    (tags : List Text)
    (tag : Text) :
    readForm tags tag name forms members = .ok data := by
  induction forms with
  | nil => cases form
  | cons first rest inner =>
    rcases first with ⟨firstName, firstSchema⟩
    rcases List.nodup_cons.mp distinct with ⟨own, others⟩
    rcases List.mem_cons.mp form with same | later
    · cases same
      rw [readForm_cons_self, reads]
      rfl
    · have different : firstName ≠ name := by
        rintro rfl
        exact own (List.mem_map.mpr ⟨_, later, rfl⟩)
      rw [readForm_cons_of_ne different]
      exact inner others later

theorem keeps_tagged
    {tag name : Text}
    {forms fields : List (Text × Schema)}
    {members : List (Text × Json)}
    (distinctForms : (forms.map Prod.fst).Nodup)
    (form : (name, record fields) ∈ forms)
    (distinct : (tag :: fields.map Prod.fst).Nodup)
    (fits : Fits fields members) :
    (tagged tag forms).Keeps (.object ((tag, .string name) :: members)) := by
  rcases List.nodup_cons.mp distinct with ⟨own, others⟩
  have once : tag ∉ members.map Prod.fst := fun member => own (fits.names_sublist.subset member)
  have kept := fits.readFields_append others [(tag, .string name)] <| by
    intro field member
    rw [List.map_singleton, List.mem_singleton]
    rintro rfl
    exact own member
  rw [List.singleton_append] at kept
  have reads : (record fields).read (some (.object ((tag, .string name) :: members)))
      = .ok (some (.object members)) := by
    rw [read_record, kept]
    rfl
  rw [Keeps, read_tagged (Json.lookup_cons_self once), readForm_of_mem distinctForms form reads]
  rfl

end Schema

end InfixCalc
