import InfixCalc.Proofs.Schema.Regular
import Mathlib.Logic.Relation

/-!
# Members that no schema names

What a schema names in a value depends on where in the value it is: a record names its
fields, a record of several forms the tag and the fields of the form that the tag says, and
what stands under another name has no schema at all.  Members that are added to any object
of a value, under names that are not named there, change neither whether the value is
accepted nor the data that are read of it.
-/

namespace InfixCalc

namespace Json

theorem lookup_insert
    {name other : Text}
    (different : other ≠ name)
    (value : Json)
    (before after : List (Text × Json)) :
    lookup (before ++ (name, value) :: after) other = lookup (before ++ after) other := by
  have alone : other ∉ [(name, value)].map Prod.fst := by
    rwa [List.map_singleton, List.mem_singleton]
  rw [← List.singleton_append, lookup_append, lookup_append, lookup_append,
    lookup_eq_none alone, Option.or_none]

/-- A member counts unless the name comes again behind it. -/
theorem lookup_middle
    (name : Text)
    (value : Json)
    (before after : List (Text × Json)) :
    lookup (before ++ (name, value) :: after) name = (lookup after name).or (some value) := by
  have alone : lookup [(name, value)] name = some value := lookup_cons_self (by simp)
  rw [← List.singleton_append, lookup_append, lookup_append, alone]
  cases lookup after name <;> rfl

theorem displayItems_append
    (first second : List Json) :
    displayItems (first ++ second) = displayItems first ++ displayItems second := by
  induction first with
  | nil => rfl
  | cons item rest inner => cases item <;> simp [displayItems, inner]

theorem displayItems_cons
    {item : Json}
    (given : item ≠ .null)
    (rest : List Json) :
    displayItems (item :: rest) = item.display :: displayItems rest := by
  cases item with
  | null => exact absurd rfl given
  | _ => rfl

end Json

namespace Schema

/-! ## What is named where -/

/-- The fields of a record. -/
def recordFields : Schema → List (Text × Schema)
  | record fields => fields
  | _ => []

/-- The fields of the form that has a name. -/
def formFields
    (forms : List (Text × Schema))
    (name : Text) :
    List (Text × Schema) :=
  ((forms.lookup name).map recordFields).getD []

/-- The fields that are named in an object with the members. -/
def fieldsOf
    (members : List (Text × Json)) :
    Schema → List (Text × Schema)
  | record fields => fields
  | tagged tag forms =>
    (tag, string none) ::
      match Json.lookup members tag with
      | some (.string name) => formFields forms name
      | _ => []
  | optional schema => fieldsOf members schema
  | nullable schema => fieldsOf members schema
  | withDefault schema _ => fieldsOf members schema
  | _ => []

/-- The schema of the items of an array. -/
def itemOf : Schema → Option Schema
  | array item => some item
  | optional schema => itemOf schema
  | nullable schema => itemOf schema
  | withDefault schema _ => itemOf schema
  | _ => none

/-- The fields that are named in an object, which may be where there is no schema. -/
def named
    (schema? : Option Schema)
    (members : List (Text × Json)) :
    List (Text × Schema) :=
  (schema?.map (fieldsOf members)).getD []

/-- One member is added to some object of a value, under a name that is not named there. -/
inductive Adds : Option Schema → Json → Json → Prop where
  | member
      {schema? : Option Schema}
      {before after : List (Text × Json)}
      {name : Text}
      {value : Json} :
      name ∉ (named schema? (before ++ after)).map Prod.fst →
      Adds schema? (.object (before ++ after)) (.object (before ++ (name, value) :: after))
  /-- The object is part of the member of some name. -/
  | inMember
      {schema? : Option Schema}
      {before after : List (Text × Json)}
      {name : Text}
      {old new : Json} :
      Adds ((named schema? (before ++ (name, old) :: after)).lookup name) old new →
      Adds schema? (.object (before ++ (name, old) :: after))
        (.object (before ++ (name, new) :: after))
  /-- The object is part of an item. -/
  | inItem
      {schema? : Option Schema}
      {before after : List Json}
      {old new : Json} :
      Adds (schema?.bind itemOf) old new →
      Adds schema? (.array (before ++ old :: after)) (.array (before ++ new :: after))

/-- Members are added to objects of a value, under names that the schema does not name there. -/
abbrev AddsAll (schema : Schema) : Json → Json → Prop :=
  Relation.ReflTransGen (Adds (some schema))

/-! ## Parts of regular schemas -/

theorem lookup_of_mem
    {fields : List (Text × Schema)}
    (distinct : (fields.map Prod.fst).Nodup)
    {name : Text}
    {schema : Schema}
    (field : (name, schema) ∈ fields) :
    fields.lookup name = some schema := by
  induction fields with
  | nil => cases field
  | cons first rest inner =>
    rcases first with ⟨firstName, firstSchema⟩
    rcases List.nodup_cons.mp distinct with ⟨own, others⟩
    rcases List.mem_cons.mp field with same | behind
    · cases same
      exact List.lookup_cons_self
    · have different : (name == firstName) = false := by
        rw [beq_eq_false_iff_ne]
        rintro rfl
        exact own (List.mem_map.mpr ⟨_, behind, rfl⟩)
      rw [List.lookup_cons, different]
      exact inner others behind

/-- The tag and the fields of a form have different names, and the fields are regular. -/
theorem regular_formFields
    {tag : Text}
    {forms : List (Text × Schema)}
    (areForms : ∀ form ∈ forms, IsForm tag form.2)
    (areRegular : ∀ form ∈ forms, Regular form.2)
    (name : Text) :
    (tag :: (formFields forms name).map Prod.fst).Nodup ∧
      ∀ field ∈ formFields forms name, Regular field.2 := by
  rw [formFields]
  cases found : forms.lookup name with
  | none => exact ⟨List.nodup_cons.mpr ⟨List.not_mem_nil, List.nodup_nil⟩, nofun⟩
  | some form =>
    have member := mem_of_lookup found
    have isRegular := areRegular _ member
    rcases areForms _ member with ⟨fields, same, apart⟩
    dsimp only at same isRegular
    subst same
    cases isRegular with
    | record distinct fieldsRegular =>
      exact ⟨List.nodup_cons.mpr ⟨apart, distinct⟩, fieldsRegular⟩

theorem Regular.fieldsOf
    {schema : Schema}
    (regular : schema.Regular)
    (members : List (Text × Json)) :
    ((schema.fieldsOf members).map Prod.fst).Nodup ∧
      ∀ field ∈ schema.fieldsOf members, field.2.Regular := by
  induction regular with
  | record distinct areRegular _ => exact ⟨distinct, areRegular⟩
  | @tagged tag forms _ areForms areRegular _ =>
    rw [Schema.fieldsOf, List.map_cons, List.forall_mem_cons]
    split
    · rename_i name _
      rcases regular_formFields areForms areRegular name with ⟨distinct, fieldsRegular⟩
      exact ⟨distinct, .string none, fieldsRegular⟩
    · exact ⟨List.nodup_cons.mpr ⟨List.not_mem_nil, List.nodup_nil⟩, .string none, nofun⟩
  | optional _ inner => exact inner
  | nullable _ inner => exact inner
  | withDefault _ inner => exact inner
  | _ => exact ⟨List.nodup_nil, nofun⟩

theorem Regular.itemOf
    {schema item : Schema}
    (regular : schema.Regular)
    (found : schema.itemOf = some item) :
    item.Regular := by
  induction regular with
  | array isRegular _ =>
    cases found
    exact isRegular
  | optional _ inner => exact inner found
  | nullable _ inner => exact inner found
  | withDefault _ inner => exact inner found
  | _ => cases found

/-! ## What reading looks at -/

/-- Objects are no numbers, and count as one and the same thing where a number is made of them. -/
theorem read_number_object
    (rule : NumberRule)
    (old new : List (Text × Json)) :
    (number rule).read (some (.object new)) = (number rule).read (some (.object old)) := by
  rw [read_number, read_number, NumberRule.read, NumberRule.read, NumberRule.input,
    NumberRule.input]
  cases rule.coerced <;> rfl

theorem read_number_array
    (rule : NumberRule)
    {old new : List Json}
    (same : (Json.array new).display = (Json.array old).display) :
    (number rule).read (some (.array new)) = (number rule).read (some (.array old)) := by
  have counted : (Json.array new).toNumber = (Json.array old).toNumber :=
    congrArg Double.ofText same
  rw [read_number, read_number, NumberRule.read, NumberRule.read, NumberRule.input,
    NumberRule.input, Option.map_some, Option.map_some, counted]
  cases rule.coerced <;> rfl

theorem readForm_congr
    {forms : List (Text × Schema)}
    {name : Text}
    {old new : List (Text × Json)}
    (same : ∀ form, forms.lookup name = some form →
      form.read (some (.object new)) = form.read (some (.object old)))
    (tags : List Text)
    (tag : Text) :
    readForm tags tag name forms new = readForm tags tag name forms old := by
  induction forms with
  | nil => rfl
  | cons first rest inner =>
    rcases first with ⟨form, schema⟩
    by_cases isForm : form = name
    · subst isForm
      rw [readForm_cons_self, readForm_cons_self, same schema List.lookup_cons_self]
    · have different : (name == form) = false := beq_eq_false_iff_ne.mpr (Ne.symm isForm)
      rw [readForm_cons_of_ne isForm, readForm_cons_of_ne isForm]
      apply inner
      intro other found
      apply same
      rwa [List.lookup_cons, different]

theorem string_of_read_eq
    {old new : Option Json}
    {written : Text}
    (same : (string none).read new = (string none).read old)
    (isWritten : old = some (.string written)) :
    new = some (.string written) := by
  rw [isWritten, keeps_string] at same
  rcases read_string_ok same with ⟨_, _, asIs, _⟩
  exact asIs.symm

theorem read_tagged_of_untold
    {tag : Text}
    {members : List (Text × Json)}
    (untold : ∀ name, Json.lookup members tag ≠ some (.string name))
    (forms : List (Text × Schema)) :
    (tagged tag forms).read (some (.object members))
      = .error [⟨[.member tag], .unknownTag (forms.map Prod.fst)⟩] := by
  simp only [read]

/-- Of an object a regular schema looks at the members that it names. -/
theorem Regular.read_object_congr
    {schema : Schema}
    (regular : schema.Regular)
    {old new : List (Text × Json)}
    (same : ∀ field ∈ schema.fieldsOf old,
      field.2.read (Json.lookup new field.1) = field.2.read (Json.lookup old field.1)) :
    schema.read (some (.object new)) = schema.read (some (.object old)) := by
  induction regular with
  | number rule => exact read_number_object rule old new
  | @record fields _ _ _ =>
    have alike : readFields fields new = readFields fields old := readFields_congr same
    rw [read_record, read_record, alike]
  | @tagged tag forms _ areForms _ _ =>
    rw [Schema.fieldsOf, List.forall_mem_cons] at same
    rcases same with ⟨sameTag, sameFields⟩
    by_cases told : ∃ name, Json.lookup old tag = some (.string name)
    · rcases told with ⟨name, told⟩
      rw [told] at sameFields
      rw [read_tagged (string_of_read_eq sameTag told), read_tagged told]
      congr 1
      apply readForm_congr
      intro form found
      rcases areForms _ (mem_of_lookup found) with ⟨fields, isRecord, _⟩
      dsimp only at isRecord
      subst isRecord
      have alike : readFields fields new = readFields fields old := by
        apply readFields_congr
        simpa [formFields, found, recordFields] using sameFields
      rw [read_record, read_record, alike]
    · have untold : ∀ name, Json.lookup old tag ≠ some (.string name) :=
        fun name found => told ⟨name, found⟩
      have stillUntold : ∀ name, Json.lookup new tag ≠ some (.string name) :=
        fun name found => untold name (string_of_read_eq sameTag.symm found)
      rw [read_tagged_of_untold untold, read_tagged_of_untold stillUntold]
  | optional _ inner => exact inner same
  | nullable _ inner => exact inner same
  | withDefault _ inner => exact inner same
  | _ => rfl

theorem readItems_congr
    {readItem : Json → Except (List Issue) (Option Json)}
    {old new : Json}
    (same : readItem new = readItem old)
    (before after : List Json)
    (index : Nat) :
    readItems readItem index (before ++ new :: after)
      = readItems readItem index (before ++ old :: after) := by
  induction before generalizing index with
  | nil => rw [List.nil_append, List.nil_append, readItems, readItems, same]
  | cons item rest inner =>
    rw [List.cons_append, List.cons_append, readItems, readItems, inner]

/-- An item of an array counts for what the schema of the items makes of it. -/
theorem Regular.read_array_congr
    {schema : Schema}
    (regular : schema.Regular)
    {old new : Json}
    {before after : List Json}
    (sameText : (Json.array (before ++ new :: after)).display
      = (Json.array (before ++ old :: after)).display)
    (same : ∀ item, schema.itemOf = some item → item.read (some new) = item.read (some old)) :
    schema.read (some (.array (before ++ new :: after)))
      = schema.read (some (.array (before ++ old :: after))) := by
  induction regular with
  | number rule => exact read_number_array rule sameText
  | @array item _ _ =>
    have alike : item.read (some new) = item.read (some old) := same item rfl
    rw [read_array, read_array, readItems_congr alike]
  | optional _ inner => exact inner same
  | nullable _ inner => exact inner same
  | withDefault _ inner => exact inner same
  | _ => rfl

/-! ## Added members -/

theorem Adds.ne_null
    {schema? : Option Schema}
    {old new : Json}
    (adds : Adds schema? old new) :
    old ≠ .null ∧ new ≠ .null := by
  cases adds <;> exact ⟨nofun, nofun⟩

/-- The bare text of a value says nothing about the members of objects. -/
theorem Adds.display_eq
    {schema? : Option Schema}
    {old new : Json}
    (adds : Adds schema? old new) :
    new.display = old.display := by
  induction adds with
  | member _ => rfl
  | inMember _ _ => rfl
  | inItem added inner =>
    rcases added.ne_null with ⟨oldGiven, newGiven⟩
    rw [Json.display, Json.display, Json.displayItems_append, Json.displayItems_append,
      Json.displayItems_cons oldGiven, Json.displayItems_cons newGiven, inner]

/-- A regular schema reads the same of a value with one more member. -/
theorem Adds.read_eq
    {schema? : Option Schema}
    {old new : Json}
    (adds : Adds schema? old new)
    {schema : Schema}
    (isSchema : schema? = some schema)
    (regular : schema.Regular) :
    schema.read (some new) = schema.read (some old) := by
  induction adds generalizing schema with
  | @member _ before after name value unnamed =>
    subst isSchema
    apply regular.read_object_congr
    intro field member
    have different : field.1 ≠ name := by
      rintro rfl
      exact unnamed (List.mem_map_of_mem member)
    rw [Json.lookup_insert different]
  | @inMember _ before after name old new _ inner =>
    subst isSchema
    rcases regular.fieldsOf (before ++ (name, old) :: after) with ⟨distinct, areRegular⟩
    apply regular.read_object_congr
    intro field member
    by_cases isNamed : field.1 = name
    · have found := lookup_of_mem distinct (show (name, field.2) ∈ _ from isNamed ▸ member)
      have alike := inner found (areRegular field member)
      rw [isNamed, Json.lookup_middle, Json.lookup_middle]
      cases Json.lookup after name with
      | none => exact alike
      | some later => rfl
    · rw [Json.lookup_insert isNamed, Json.lookup_insert isNamed]
  | @inItem _ before after old new added inner =>
    subst isSchema
    have whole : Adds (some schema) (.array (before ++ old :: after))
        (.array (before ++ new :: after)) :=
      .inItem added
    have sameText := whole.display_eq
    apply regular.read_array_congr sameText
    intro item found
    exact inner found (regular.itemOf found)

/-- Members that a regular schema does not name change nothing. -/
theorem AddsAll.read_eq
    {schema : Schema}
    {old new : Json}
    (regular : schema.Regular)
    (adds : schema.AddsAll old new) :
    schema.read (some new) = schema.read (some old) := by
  induction adds with
  | refl => rfl
  | tail _ last inner => rw [last.read_eq rfl regular, inner]

end Schema

end InfixCalc
