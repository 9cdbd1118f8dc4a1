import InfixCalc.Proofs.Schema.Kept

/-!
# What a schema has accepted

The other way round, from the data that a schema gives to the value that was
read.  A record gives for each of its fields what the schema of the field gives for
the member of that name; strings, names and plain numbers are given as they are.
-/

namespace InfixCalc.Schema

theorem read_string_ok
    {longest : Option Nat}
    {value data : Option Json}
    (accepted : (string longest).read value = .ok data) :
    ∃ written, value = some (.string written) ∧ data = value ∧
      ∀ bound, longest = some bound → written.length ≤ bound := by
  rw [read_string] at accepted
  unfold readString at accepted
  split at accepted
  · rename_i written
    split at accepted
    · rename_i fits
      cases accepted
      refine ⟨written, rfl, rfl, ?_⟩
      rintro bound rfl
      simpa [Option.filter_eq_none_iff] using fits
    · cases accepted
  · cases accepted

theorem read_choice_ok
    {names : List Text}
    {value data : Option Json}
    (accepted : (choice names).read value = .ok data) :
    ∃ name ∈ names, value = some (.string name) ∧ data = value := by
  rw [read_choice] at accepted
  unfold readChoice at accepted
  split at accepted
  · rename_i written
    split at accepted
    · rename_i member
      cases accepted
      exact ⟨written, List.contains_iff_mem.mp member, rfl, rfl⟩
    · cases accepted
  · cases accepted

theorem read_number_ok
    {rule : NumberRule}
    {value data : Option Json}
    (accepted : (number rule).read value = .ok data) :
    ∃ number,
      rule.input value = some (.number number) ∧
        data = some (.number number) ∧
        rule.complaints number = [] := by
  rw [read_number, NumberRule.read] at accepted
  split at accepted
  · cases accepted
  · rename_i number _ found
    split at accepted
    · rename_i fine
      cases accepted
      exact ⟨number, found, rfl, fine⟩
    · cases accepted
  · cases accepted

theorem read_optional_ok
    {schema : Schema}
    {value data : Option Json}
    (accepted : (optional schema).read value = .ok data) :
    (value = none ∧ data = none) ∨
      ∃ given, value = some given ∧ schema.read (some given) = .ok data := by
  cases value with
  | none =>
    rw [read_optional_none] at accepted
    cases accepted
    exact .inl ⟨rfl, rfl⟩
  | some given =>
    rw [read_optional_some] at accepted
    exact .inr ⟨given, rfl, accepted⟩

/-- A name is left out or is one of the names. -/
theorem read_optional_choice_ok_iff
    {α : Type}
    {all : List α}
    {name : α → Text}
    {value data : Option Json} :
    (optional (choice (all.map name))).read value = .ok data ↔
      data = value ∧
        ∃ named : Option α, value = named.map (fun one => .string (name one)) ∧
          ∀ one ∈ named, one ∈ all := by
  constructor
  · intro accepted
    rcases read_optional_ok accepted with ⟨rfl, rfl⟩ | ⟨given, rfl, chosen⟩
    · exact ⟨rfl, none, rfl, nofun⟩
    · rcases read_choice_ok chosen with ⟨written, member, found, rfl⟩
      rcases List.mem_map.mp member with ⟨one, listed, rfl⟩
      refine ⟨rfl, some one, found, ?_⟩
      rintro _ ⟨⟩
      exact listed
  · rintro ⟨rfl, named, rfl, listed⟩
    cases named with
    | none => exact read_optional_none _
    | some one => exact keeps_choice (List.mem_map_of_mem (listed one rfl))

theorem read_array_ok
    {item : Schema}
    {value data : Option Json}
    (accepted : (array item).read value = .ok data) :
    ∃ items read, value = some (.array items) ∧ data = some (.array read) ∧
      readItems (fun value => item.read (some value)) 0 items = .ok read := by
  simp only [read] at accepted
  split at accepted
  · rename_i items
    cases itemsRead : readItems (fun value => item.read (some value)) 0 items with
    | ok read =>
      rw [itemsRead] at accepted
      cases accepted
      exact ⟨items, read, rfl, rfl, itemsRead⟩
    | error issues =>
      rw [itemsRead] at accepted
      cases accepted
  · cases accepted

/-- What has been read of items was read of one of them. -/
theorem readItems_ok
    {readItem : Json → Except (List Issue) (Option Json)}
    {index : Nat}
    {items read : List Json}
    (accepted : readItems readItem index items = .ok read) :
    ∀ data ∈ read, ∃ item ∈ items, readItem item = .ok (some data) := by
  induction items generalizing index read with
  | nil =>
    cases accepted
    nofun
  | cons item rest inner =>
    rw [readItems] at accepted
    split at accepted
    · rename_i first others firstRead laterRead
      cases accepted
      intro data member
      rcases List.mem_append.mp member with here | behind
      · rw [Option.mem_toList] at here
        exact ⟨item, List.mem_cons_self, here ▸ firstRead⟩
      · rcases inner laterRead data behind with ⟨later, laterMember, laterItem⟩
        exact ⟨later, .tail _ laterMember, laterItem⟩
    · cases accepted
    · cases accepted
    · cases accepted

theorem read_record_ok
    {fields : List (Text × Schema)}
    {value data : Option Json}
    (accepted : (record fields).read value = .ok data) :
    ∃ members read, value = some (.object members) ∧ data = some (.object read) ∧
      readFields fields members = .ok read := by
  simp only [read] at accepted
  split at accepted
  · rename_i members
    cases fieldsRead : readFields fields members with
    | ok read =>
      rw [fieldsRead] at accepted
      cases accepted
      exact ⟨members, read, rfl, rfl, fieldsRead⟩
    | error issues =>
      rw [fieldsRead] at accepted
      cases accepted
  · cases accepted

theorem readFields_cons_ok
    {name : Text}
    {schema : Schema}
    {rest : List (Text × Schema)}
    {members read : List (Text × Json)}
    (accepted : readFields ((name, schema) :: rest) members = .ok read) :
    ∃ data others,
      schema.read (Json.lookup members name) = .ok data ∧
        readFields rest members = .ok others ∧
        read = data.toList.map (fun value => (name, value)) ++ others := by
  rw [readFields_cons] at accepted
  split at accepted
  · rename_i data others first later
    cases accepted
    exact ⟨data, others, first, later, rfl⟩
  · cases accepted
  · cases accepted
  · cases accepted

/-- Fields that can be read one by one can be read together. -/
theorem readFields_ok
    {fields : List (Text × Schema)}
    {members : List (Text × Json)}
    (each : ∀ field ∈ fields, ∃ data, field.2.read (Json.lookup members field.1) = .ok data) :
    ∃ read, readFields fields members = .ok read := by
  induction fields with
  | nil => exact ⟨[], readFields_nil⟩
  | cons field rest inner =>
    rcases List.forall_mem_cons.mp each with ⟨⟨data, first⟩, others⟩
    rcases inner others with ⟨read, later⟩
    exact ⟨_, by rw [readFields_cons, first, later]⟩

theorem names_readFields
    {fields : List (Text × Schema)}
    {members read : List (Text × Json)}
    (accepted : readFields fields members = .ok read) :
    (read.map Prod.fst).Sublist (fields.map Prod.fst) := by
  induction fields generalizing read with
  | nil =>
    rw [readFields_nil] at accepted
    cases accepted
    exact .slnil
  | cons field rest inner =>
    rcases field with ⟨name, schema⟩
    rcases readFields_cons_ok accepted with ⟨data, others, _, later, rfl⟩
    cases data with
    | none => exact (inner later).cons _
    | some value => exact (inner later).cons_cons _

/-- What is read under a name is what the schema of the field makes of the member. -/
theorem readFields_lookup
    {fields : List (Text × Schema)}
    {members read : List (Text × Json)}
    (distinct : (fields.map Prod.fst).Nodup)
    (accepted : readFields fields members = .ok read)
    {name : Text}
    {schema : Schema}
    (field : (name, schema) ∈ fields) :
    schema.read (Json.lookup members name) = .ok (Json.lookup read name) := by
  induction fields generalizing read with
  | nil => cases field
  | cons first rest inner =>
    rcases first with ⟨firstName, firstSchema⟩
    rcases List.nodup_cons.mp distinct with ⟨own, others⟩
    rcases readFields_cons_ok accepted with ⟨data, laterRead, firstRead, later, rfl⟩
    have apart : firstName ∉ laterRead.map Prod.fst :=
      fun member => own ((names_readFields later).subset member)
    rw [Json.lookup_append]
    rcases List.mem_cons.mp field with same | behind
    · cases same
      rw [firstRead, Json.lookup_eq_none apart, Option.none_or]
      cases data <;> simp [Json.lookup]
    · have different : name ∉ (data.toList.map fun value => (firstName, value)).map Prod.fst := by
        intro member
        have named : name = firstName := by
          cases data with
          | none => cases member
          | some value => exact List.mem_singleton.mp member
        exact own (named ▸ List.mem_map.mpr ⟨_, behind, rfl⟩)
      rw [Json.lookup_eq_none different, Option.or_none]
      exact inner others later behind

end InfixCalc.Schema
