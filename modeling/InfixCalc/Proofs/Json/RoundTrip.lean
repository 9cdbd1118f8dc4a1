import InfixCalc.Proofs.Json.Grouping

/-!
# Written JSON is read back

A value whose numbers are integers and small is read back from its text, in either
layout.  The text is read as lexemes, and these build the value again; both are
proved at once by induction on the value.
-/

namespace InfixCalc.Json

/-- All numbers of the value are integers, and small enough to be written as numerals. -/
inductive Readable : Json → Prop where
  | null : Readable .null
  | bool (value : Bool) : Readable (.bool value)
  | int {number : Int} : number.natAbs < Double.significandBound → Readable (.int number)
  | string (value : Text) : Readable (.string value)
  | array {items : List Json} : (∀ item ∈ items, Readable item) → Readable (.array items)
  | object
      {members : List (Text × Json)} :
      (∀ member ∈ members, Readable member.2) →
      Readable (.object members)

theorem Readable.nat
    {number : Nat}
    (small : number < Double.significandBound) :
    Readable (.nat number) := by
  have readable : Readable (.int number) := .int small
  rwa [Json.int, Double.ofInt_natCast] at readable

/-- A member that may be missing is readable if its value is. -/
theorem readable_toList
    {α : Type}
    {given : Option α}
    {member : α → Text × Json}
    (each : ∀ one ∈ given, (member one).2.Readable) :
    ∀ found ∈ (given.map member).toList, found.2.Readable := by
  intro found present
  rw [Option.mem_toList, Option.map_eq_some_iff] at present
  rcases present with ⟨one, isGiven, rfl⟩
  exact each one isGiven

/-- The lexemes build the value wherever one may stand. -/
def Builds
    (lexemes : List Lexeme)
    (value : Json) :
    Prop :=
  ∀ (frames : List Frame) (closable : Bool),
    lexemes.foldlM Building.step ⟨frames, .value closable⟩ = some ⟨frames, .after value⟩

/-- The text is read as lexemes that build the value. -/
def Recovers
    (text : Text)
    (value : Json) :
    Prop :=
  ∃ lexemes, Reads text lexemes ∧ Builds lexemes value

/-! ## Layouts -/

theorem readsExactly_lineBreak (layout : Layout) : ReadsExactly layout.lineBreak [] := by
  apply readsExactly_spaces
  cases layout with
  | compact => exact List.forall_mem_nil _
  | indented level =>
    rw [Layout.lineBreak, List.forall_mem_cons]
    refine ⟨rfl, ?_⟩
    intro unit member
    rw [List.eq_of_mem_replicate member]
    rfl

theorem readsExactly_colon (layout : Layout) : ReadsExactly layout.colon [.colon] := by
  have mark : ReadsExactly [0x3A] [.colon] := readsExactly_mark rfl (by decide) rfl
  cases layout with
  | compact => exact mark
  | indented level =>
    exact mark.append (readsExactly_spaces (List.forall_mem_singleton.mpr rfl))

/-- What stands behind the last part ends a word. -/
theorem delimits_lineBreak
    (layout : Layout)
    {unit : CodeUnit}
    (ends : isDelimiter unit) :
    Delimits (layout.lineBreak ++ [unit]) := by
  intro next head
  cases layout with
  | compact =>
    cases head
    exact ends
  | indented level =>
    cases head
    rfl

theorem reads_enclose
    (layout : Layout)
    {opening closing : CodeUnit}
    {openMark closeMark : Lexeme}
    (opens : ReadsExactly [opening] [openMark])
    (closes : ReadsExactly [closing] [closeMark])
    (ends : isDelimiter closing)
    {parts : List Text}
    (some : parts ≠ [])
    {lexemes : List Lexeme}
    (reads : Reads (Text.join (0x2C :: layout.inner.lineBreak) parts) lexemes) :
    Reads (layout.enclose opening closing parts) (openMark :: (lexemes ++ [closeMark])) := by
  have last : ReadsExactly (layout.lineBreak ++ [closing]) [closeMark] :=
    (readsExactly_lineBreak layout).append closes
  have inside := (readsExactly_lineBreak layout.inner).append_reads
    (reads.append (delimits_lineBreak layout ends) last.reads)
  have whole := opens.append_reads inside
  have notEmpty : parts.isEmpty = false := by simpa using some
  rw [Layout.enclose, notEmpty]
  simpa using whole

theorem reads_enclose_nil
    (layout : Layout)
    {opening closing : CodeUnit}
    {openMark closeMark : Lexeme}
    (opens : ReadsExactly [opening] [openMark])
    (closes : ReadsExactly [closing] [closeMark]) :
    Reads (layout.enclose opening closing []) [openMark, closeMark] :=
  (opens.append closes).reads

theorem reads_join_cons
    (layout : Layout)
    {first second : Text}
    {rest : List Text}
    {firstLexemes others : List Lexeme}
    (reads : Reads first firstLexemes)
    (readsOthers : Reads (Text.join (0x2C :: layout.lineBreak) (second :: rest)) others) :
    Reads (Text.join (0x2C :: layout.lineBreak) (first :: second :: rest))
      (firstLexemes ++ .comma :: others) := by
  have comma : ReadsExactly [0x2C] [.comma] := readsExactly_mark rfl (by decide) rfl
  have separated := (comma.append (readsExactly_lineBreak layout)).append_reads readsOthers
  have delimits : Delimits ([0x2C] ++ layout.lineBreak
      ++ Text.join (0x2C :: layout.lineBreak) (second :: rest)) := by
    rintro unit ⟨⟩
    rfl
  have whole := reads.append delimits separated
  simpa [Text.join] using whole

/-! ## Arrays and objects -/

theorem writeItems_eq_map
    (layout : Layout)
    (items : List Json) :
    writeItems layout items = items.map (write layout) := by
  induction items with
  | nil => rfl
  | cons item rest inner => rw [writeItems, inner, List.map_cons]

/-- A member as it is written. -/
def writeMember
    (layout : Layout)
    (member : Text × Json) :
    Text :=
  quote member.1 ++ layout.colon ++ write layout member.2

theorem writeMembers_eq_map
    (layout : Layout)
    (members : List (Text × Json)) :
    writeMembers layout members = members.map (writeMember layout) := by
  induction members with
  | nil => rfl
  | cons member rest inner => rw [writeMembers, inner, List.map_cons, writeMember]

/-- The lexemes of items close the array that they stand in. -/
theorem recovers_items
    (layout : Layout)
    {item : Json}
    {rest : List Json}
    (each : ∀ one ∈ item :: rest, Recovers (write layout one) one) :
    ∃ lexemes,
      Reads (Text.join (0x2C :: layout.lineBreak) ((item :: rest).map (write layout))) lexemes ∧
        ∀ before frames closable,
          (lexemes ++ [Lexeme.closeArray]).foldlM Building.step
              ⟨.array before :: frames, .value closable⟩
            = some ⟨frames, .after (.array (before.reverse ++ item :: rest))⟩ := by
  induction rest generalizing item with
  | nil =>
    rcases each item List.mem_cons_self with ⟨lexemes, reads, builds⟩
    refine ⟨lexemes, reads, ?_⟩
    intro before frames closable
    rw [List.foldlM_append, builds]
    simp [Building.step]
  | cons second others inner =>
    rcases List.forall_mem_cons.mp each with ⟨⟨first, reads, builds⟩, later⟩
    rcases inner later with ⟨lexemes, readsLater, buildsLater⟩
    refine ⟨first ++ .comma :: lexemes, reads_join_cons layout reads readsLater, ?_⟩
    intro before frames closable
    have comma : Building.step ⟨.array before :: frames, .after item⟩ .comma
        = some ⟨.array (item :: before) :: frames, .value false⟩ := rfl
    rw [List.append_assoc, List.foldlM_append, builds, Option.bind_eq_bind, Option.bind_some,
      List.cons_append, List.foldlM_cons, comma, Option.bind_eq_bind, Option.bind_some,
      buildsLater]
    simp

/-- The lexemes of members close the object that they stand in. -/
theorem recovers_members
    (layout : Layout)
    {member : Text × Json}
    {rest : List (Text × Json)}
    (each : ∀ one ∈ member :: rest, Recovers (write layout one.2) one.2) :
    ∃ lexemes,
      Reads (Text.join (0x2C :: layout.lineBreak) ((member :: rest).map (writeMember layout)))
          lexemes ∧
        ∀ before frames closable,
          (lexemes ++ [Lexeme.closeObject]).foldlM Building.step ⟨frames, .name before closable⟩
            = some ⟨frames, .after (.object (before.reverse ++ member :: rest))⟩ := by
  have readsMember {one : Text × Json}
      {lexemes : List Lexeme}
      (reads : Reads (write layout one.2) lexemes) :
      Reads (writeMember layout one) (.string one.1 :: .colon :: lexemes) :=
    ((readsExactly_quote one.1).append (readsExactly_colon layout)).append_reads reads
  have buildsMember {one : Text × Json}
      {lexemes : List Lexeme}
      (builds : Builds lexemes one.2)
      (before : List (Text × Json))
      (frames : List Frame)
      (closable : Bool) :
      (Lexeme.string one.1 :: .colon :: lexemes).foldlM Building.step
          ⟨frames, .name before closable⟩
        = some ⟨.object before one.1 :: frames, .after one.2⟩ := by
    have named : Building.step ⟨frames, .name before closable⟩ (.string one.1)
        = some ⟨frames, .colon before one.1⟩ := rfl
    have opened : Building.step ⟨frames, .colon before one.1⟩ .colon
        = some ⟨.object before one.1 :: frames, .value false⟩ := rfl
    rw [List.foldlM_cons, named, Option.bind_eq_bind, Option.bind_some, List.foldlM_cons, opened,
      Option.bind_eq_bind, Option.bind_some, builds]
  induction rest generalizing member with
  | nil =>
    rcases each member List.mem_cons_self with ⟨lexemes, reads, builds⟩
    refine ⟨_, readsMember reads, ?_⟩
    intro before frames closable
    rw [List.foldlM_append, buildsMember builds]
    simp [Building.step]
  | cons second others inner =>
    rcases List.forall_mem_cons.mp each with ⟨⟨first, reads, builds⟩, later⟩
    rcases inner later with ⟨lexemes, readsLater, buildsLater⟩
    refine ⟨_, reads_join_cons layout (readsMember reads) readsLater, ?_⟩
    intro before frames closable
    have comma : Building.step ⟨.object before member.1 :: frames, .after member.2⟩ .comma
        = some ⟨frames, .name (member :: before) false⟩ := rfl
    rw [List.append_assoc, List.foldlM_append, buildsMember builds, Option.bind_eq_bind,
      Option.bind_some, List.cons_append, List.foldlM_cons, comma, Option.bind_eq_bind,
      Option.bind_some, buildsLater]
    simp

/-! ## Values -/

theorem builds_scalar (value : Json) : Builds [.scalar value] value :=
  fun _ _ => rfl

theorem builds_string (value : Text) : Builds [.string value] (.string value) :=
  fun _ _ => rfl

/-- An integer is written with digits and a hyphen. -/
theorem mem_integerText
    {number : Int}
    {unit : CodeUnit}
    (member : unit ∈ Double.integerText number) :
    unit ∈ 0x2D :: CodeUnit.digits := by
  rw [Double.integerText, List.mem_append] at member
  rcases member with sign | digit
  · split_ifs at sign
    · rw [List.mem_singleton.mp sign]
      exact List.mem_cons_self
    · cases sign
  · exact .tail _ (CodeUnit.isDigit_iff_mem.mp (Text.isDigit_of_mem_numeral digit))

theorem isWord_integerText (number : Int) : isWord (Double.integerText number) := by
  have nonempty : (Double.integerText number).isEmpty = false := by
    simp [Double.integerText, Text.numeral_ne_nil]
  have none : (0x2D :: CodeUnit.digits).all fun unit => !isDelimiter unit := by decide
  rw [isWord, nonempty, Bool.not_false, Bool.true_and, List.all_eq_true]
  intro unit member
  exact List.all_eq_true.mp none unit (mem_integerText member)

theorem ofWord?_integerText (number : Int) :
    ofWord? (Double.integerText number) = some (.int number) := by
  have noName (name : Text) (letter : ∃ unit ∈ name, unit ∉ 0x2D :: CodeUnit.digits) :
      Double.integerText number ≠ name := by
    rintro rfl
    rcases letter with ⟨unit, member, other⟩
    exact other (mem_integerText member)
  have noNull := noName (text "null") (by decide)
  have noTrue := noName (text "true") (by decide)
  have noFalse := noName (text "false") (by decide)
  simp [ofWord?, noNull, noTrue, noFalse, Double.ofJsonText?_integerText, int]

/-- A small integer is written as its numeral. -/
theorem numberText_ofInt
    {number : Int}
    (small : number.natAbs < Double.significandBound) :
    numberText (.ofInt number) = Double.integerText number := by
  rw [numberText, if_pos (Double.isFinite_ofInt small), Double.toText_ofInt small]

/-- The text of a value is read as lexemes that build it again. -/
theorem recovers_write
    {value : Json}
    (readable : value.Readable)
    (layout : Layout) :
    Recovers (write layout value) value := by
  have word {name : Text}
      {named : Json}
      (whole : isWord name)
      (read : ofWord? name = some named) :
      Recovers name named :=
    ⟨_, reads_word whole read, builds_scalar named⟩
  induction readable generalizing layout with
  | null =>
    have whole : isWord (text "null") := by decide
    exact word whole rfl
  | bool value =>
    cases value with
    | true =>
      have whole : isWord (text "true") := by decide
      exact word whole rfl
    | false =>
      have whole : isWord (text "false") := by decide
      exact word whole rfl
  | @int number small =>
    rw [int, write, numberText_ofInt small]
    exact word (isWord_integerText number) (ofWord?_integerText number)
  | string value => exact ⟨_, (readsExactly_quote value).reads, builds_string value⟩
  | @array items _ inner =>
    have opens : ReadsExactly [0x5B] [.openArray] := readsExactly_mark rfl (by decide) rfl
    have closes : ReadsExactly [0x5D] [.closeArray] := readsExactly_mark rfl (by decide) rfl
    rw [write, writeItems_eq_map]
    cases items with
    | nil => exact ⟨_, reads_enclose_nil layout opens closes, fun _ _ => rfl⟩
    | cons item rest =>
      rcases recovers_items layout.inner fun one member => inner one member layout.inner with
        ⟨lexemes, reads, builds⟩
      refine ⟨_, reads_enclose layout opens closes rfl (List.cons_ne_nil _ _) reads, ?_⟩
      intro frames closable
      exact builds [] frames true
  | @object members _ inner =>
    have opens : ReadsExactly [0x7B] [.openObject] := readsExactly_mark rfl (by decide) rfl
    have closes : ReadsExactly [0x7D] [.closeObject] := readsExactly_mark rfl (by decide) rfl
    rw [write, writeMembers_eq_map]
    cases members with
    | nil => exact ⟨_, reads_enclose_nil layout opens closes, fun _ _ => rfl⟩
    | cons member rest =>
      rcases recovers_members layout.inner fun one found => inner one found layout.inner with
        ⟨lexemes, reads, builds⟩
      refine ⟨_, reads_enclose layout opens closes rfl (List.cons_ne_nil _ _) reads, ?_⟩
      intro frames closable
      exact builds [] frames true

/-- Reading gives back what was written. -/
theorem parse?_write
    {value : Json}
    (readable : value.Readable)
    (layout : Layout) :
    parse? (write layout value) = some value := by
  rcases recovers_write readable layout with ⟨lexemes, reads, builds⟩
  have read := reads [] [] nofun
  rw [List.append_nil, List.append_nil] at read
  have grouped : lexemes? (write layout value) = some lexemes := by
    rw [lexemes?, Grouping.start]
    refine read.trans ?_
    simp [Grouping.run?, Grouping.finish?]
  rw [parse?, grouped, Option.bind_some, Building.start, builds]
  rfl

end InfixCalc.Json
