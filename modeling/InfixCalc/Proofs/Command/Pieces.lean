import InfixCalc.Command.Run
import Mathlib.Data.List.Induction
import Mathlib.Data.List.Nodup

/-!
# Arguments taken apart

A list of arguments falls apart into pieces in exactly one way: a positional argument, a flag
that is not known, a flag without a value, or a flag together with its value.  Only the last
flag may lack its value.  Sorting arguments keeps the positional ones and the unknown flags in
their order, and gives each flag the value that it was given last.

So sorting two lists one after the other is sorting each of them, as long as the first does
not end in a flag that takes its value from the second, and flags between positional
arguments do not change the expression.
-/

namespace InfixCalc.Command

/-! ## Values over others -/

namespace FlagValues

/-- The values, but for flags that are given others, one after the other. -/
def overriddenBy
    (values given : FlagValues) :
    FlagValues :=
  given.foldl (fun held entry => held.set entry.1 entry.2) values

/-- All values that are given for a flag. -/
def valuesOf
    (flag : Flag)
    (given : FlagValues) :
    List Text :=
  given.filterMap fun entry => if entry.1 = flag then some entry.2 else none

theorem overriddenBy_append
    (values first second : FlagValues) :
    values.overriddenBy (first ++ second) = (values.overriddenBy first).overriddenBy second :=
  List.foldl_append

/-- A flag has the value that it is given last. -/
theorem get?_overriddenBy
    (values given : FlagValues)
    (flag : Flag) :
    (values.overriddenBy given).get? flag
      = ((valuesOf flag given).getLast?).or (values.get? flag) := by
  induction given generalizing values with
  | nil => rfl
  | cons entry rest inner =>
    rcases entry with ⟨present, value⟩
    change ((values.set present value).overriddenBy rest).get? flag = _
    rw [inner]
    by_cases same : present = flag
    · subst same
      have front : valuesOf present ((present, value) :: rest)
          = value :: valuesOf present rest := by
        simp [valuesOf]
      rw [get?_set_self, front, List.getLast?_cons]
      cases (valuesOf present rest).getLast? <;> rfl
    · have front : valuesOf flag ((present, value) :: rest) = valuesOf flag rest := by
        simp [valuesOf, same]
      rw [get?_set_of_ne _ _ same, front]

theorem set_set
    (values : FlagValues)
    (flag : Flag)
    (first second : Text) :
    (values.set flag first).set flag second = values.set flag second := by
  induction values with
  | nil => simp [set]
  | cons entry rest inner =>
    by_cases present : entry.1 = flag
    · simp [set, present]
    · simp [set, present, inner]

/-- Of two flags the one that is there already can be given its value later. -/
theorem set_comm
    {values : FlagValues}
    {flag other : Flag}
    (present : flag ∈ values.map Prod.fst)
    (different : flag ≠ other)
    (value otherValue : Text) :
    (values.set other otherValue).set flag value
      = (values.set flag value).set other otherValue := by
  induction values with
  | nil => cases present
  | cons entry rest inner =>
    by_cases same : entry.1 = flag
    · simp [set, same, different]
    · by_cases sameOther : entry.1 = other
      · simp [set, sameOther, different.symm]
      · have behind : flag ∈ rest.map Prod.fst :=
          (List.mem_cons.mp present).resolve_left (Ne.symm same)
        simp [set, same, sameOther, inner behind]

theorem names_set
    (values : FlagValues)
    (flag : Flag)
    (value : Text) :
    (values.set flag value).map Prod.fst
      = if flag ∈ values.map Prod.fst then values.map Prod.fst
        else values.map Prod.fst ++ [flag] := by
  induction values with
  | nil => rfl
  | cons entry rest inner =>
    by_cases same : entry.1 = flag
    · simp [set, same]
    · have different : ¬ flag = entry.1 := Ne.symm same
      simp only [set, same, if_false, List.map_cons, inner, List.mem_cons, different, false_or]
      split <;> rfl

theorem nodup_set
    {values : FlagValues}
    (distinct : (values.map Prod.fst).Nodup)
    (flag : Flag)
    (value : Text) :
    ((values.set flag value).map Prod.fst).Nodup := by
  rw [names_set]
  split
  · exact distinct
  · rename_i absent
    rw [← List.concat_eq_append]
    exact distinct.concat absent

theorem nodup_overriddenBy
    {values : FlagValues}
    (distinct : (values.map Prod.fst).Nodup)
    (given : FlagValues) :
    ((values.overriddenBy given).map Prod.fst).Nodup := by
  induction given generalizing values with
  | nil => exact distinct
  | cons entry rest inner => exact inner (nodup_set distinct entry.1 entry.2)

/-- A flag that is given a value before others can be given another one after them. -/
theorem set_overriddenBy
    {values given : FlagValues}
    {flag : Flag}
    (present : flag ∈ values.map Prod.fst)
    (absent : flag ∉ given.map Prod.fst)
    (value : Text) :
    (values.overriddenBy given).set flag value = (values.set flag value).overriddenBy given := by
  induction given generalizing values with
  | nil => rfl
  | cons entry rest inner =>
    have different : flag ≠ entry.1 := List.ne_of_not_mem_cons absent
    have stillPresent : flag ∈ (values.set entry.1 entry.2).map Prod.fst := by
      rw [names_set]
      split
      · exact present
      · exact List.mem_append_left _ present
    change ((values.set entry.1 entry.2).overriddenBy rest).set flag value
      = ((values.set flag value).set entry.1 entry.2).overriddenBy rest
    rw [inner stillPresent (List.not_mem_of_not_mem_cons absent), set_comm present different]

theorem overriddenBy_set
    (values : FlagValues)
    {given : FlagValues}
    (distinct : (given.map Prod.fst).Nodup)
    (flag : Flag)
    (value : Text) :
    values.overriddenBy (given.set flag value) = (values.overriddenBy given).set flag value := by
  induction given generalizing values with
  | nil => rfl
  | cons entry rest inner =>
    rcases List.nodup_cons.mp distinct with ⟨once, others⟩
    rcases entry with ⟨present, held⟩
    by_cases same : present = flag
    · subst same
      have there : present ∈ (values.set present held).map Prod.fst := by
        rw [names_set]
        split
        · assumption
        · exact List.mem_append_right _ (List.mem_singleton_self _)
      have front : FlagValues.set ((present, held) :: rest) present value
          = (present, value) :: rest := if_pos rfl
      change _ = ((values.set present held).overriddenBy rest).set present value
      rw [front, set_overriddenBy there once, set_set]
      rfl
    · have front : FlagValues.set ((present, held) :: rest) flag value
          = (present, held) :: FlagValues.set rest flag value := if_neg same
      rw [front]
      exact inner (values.set present held) others

/-- Values can be gathered before they override others. -/
theorem overriddenBy_gathered
    (values given : FlagValues) :
    values.overriddenBy (FlagValues.overriddenBy [] given) = values.overriddenBy given := by
  induction given using List.reverseRecOn with
  | nil => rfl
  | append_singleton earlier entry inner =>
    have nothing : (([] : FlagValues).map Prod.fst).Nodup := List.nodup_nil
    have distinct := nodup_overriddenBy nothing earlier
    rw [overriddenBy_append, overriddenBy_append, ← inner]
    exact overriddenBy_set values distinct entry.1 entry.2

/-- A flag has the value of the values that override, if it has one there. -/
theorem get?_overriddenBy_gathered
    (values given : FlagValues)
    (flag : Flag) :
    (values.overriddenBy (FlagValues.overriddenBy [] given)).get? flag
      = ((FlagValues.overriddenBy [] given).get? flag).or (values.get? flag) := by
  rw [overriddenBy_gathered, get?_overriddenBy, get?_overriddenBy]
  cases (valuesOf flag given).getLast? <;> rfl

end FlagValues

/-! ## Pieces -/

/-- One or two neighbouring arguments that are read together. -/
inductive Piece where
  | positional (argument : Text)
  | unknown (argument : Text)
  | switch (flag : Flag)
  | setting (flag : Flag) (value : Text)
  /-- A flag whose value is missing, since the arguments end. -/
  | unvalued (flag : Flag)
  deriving DecidableEq, Repr

namespace Piece

/-- The arguments that a piece consists of. -/
def written : Piece → List Text
  | positional argument => [argument]
  | unknown argument => [argument]
  | switch flag => [flag.toText]
  | setting flag value => [flag.toText, value]
  | unvalued flag => [flag.toText]

/-- What is positional is not written as a flag, and a flag has a value just if it takes one. -/
def IsProper : Piece → Prop
  | positional argument => Arguments.isFlag argument = false
  | unknown argument => Arguments.isFlag argument = true ∧ ∀ flag : Flag, argument ≠ flag.toText
  | switch flag => flag.takesValue = false
  | setting flag _ => flag.takesValue = true
  | unvalued flag => flag.takesValue = true

/-- Whether the piece is a flag without the value that it takes. -/
def lacksValue : Piece → Bool
  | unvalued _ => true
  | _ => false

/-- The positional argument that a piece is. -/
def positional? : Piece → Option Text
  | positional argument => some argument
  | _ => none

/-- The flag that is not known that a piece is. -/
def unknown? : Piece → Option Text
  | unknown argument => some argument
  | _ => none

/-- A flag and what it is given: the next argument as it stands, or nothing, or that it is there. -/
def given? : Piece → Option (Flag × Text)
  | switch flag => some (flag, text "true")
  | setting flag value => some (flag, value)
  | unvalued flag => some (flag, [])
  | _ => none

theorem neither_of_given
    {piece : Piece}
    (given : (piece.given?).isSome) :
    piece.positional? = none ∧ piece.unknown? = none := by
  cases piece with
  | positional argument => cases given
  | unknown argument => cases given
  | _ => exact ⟨rfl, rfl⟩

end Piece

/-- The arguments fall apart into the pieces, each of them read once and in its place. -/
structure Splits
    (arguments : List Text)
    (pieces : List Piece) :
    Prop where
  whole : pieces.flatMap Piece.written = arguments
  proper : ∀ piece ∈ pieces, piece.IsProper
  /-- Only the last piece may lack its value. -/
  valued : ∀ piece ∈ pieces.dropLast, piece.lacksValue = false

namespace Splits

variable
    {arguments : List Text}
    {piece : Piece}
    {pieces : List Piece}

theorem nil : Splits [] [] := ⟨rfl, nofun, nofun⟩

theorem cons
    (isProper : piece.IsProper)
    (last : piece.lacksValue = true → pieces = [])
    (splits : Splits arguments pieces) :
    Splits (piece.written ++ arguments) (piece :: pieces) where
  whole := by rw [List.flatMap_cons, splits.whole]
  proper := List.forall_mem_cons.mpr ⟨isProper, splits.proper⟩
  valued := by
    cases pieces with
    | nil => nofun
    | cons next rest =>
      rw [List.dropLast_cons_cons, List.forall_mem_cons]
      refine ⟨?_, splits.valued⟩
      rw [Bool.eq_false_iff]
      exact fun lacks => List.cons_ne_nil _ _ (last lacks)

theorem tail (splits : Splits arguments (piece :: pieces)) :
    Splits (pieces.flatMap Piece.written) pieces where
  whole := rfl
  proper := (List.forall_mem_cons.mp splits.proper).2
  valued := by
    cases pieces with
    | nil => nofun
    | cons next rest =>
      have valued := splits.valued
      rw [List.dropLast_cons_cons, List.forall_mem_cons] at valued
      exact valued.2

theorem last
    (splits : Splits arguments (piece :: pieces))
    (lacks : piece.lacksValue = true) :
    pieces = [] := by
  cases pieces with
  | nil => rfl
  | cons next rest =>
    have valued := splits.valued
    rw [List.dropLast_cons_cons, List.forall_mem_cons, lacks] at valued
    exact absurd valued.1 (by decide)

/-- Two lists of pieces, the first of which lacks no value, are the pieces of both lists. -/
theorem append
    {later : List Text}
    {laterPieces : List Piece}
    (splits : Splits arguments pieces)
    (complete : ∀ piece ∈ pieces, piece.lacksValue = false)
    (laterSplits : Splits later laterPieces) :
    Splits (arguments ++ later) (pieces ++ laterPieces) := by
  induction pieces generalizing arguments with
  | nil =>
    rw [← splits.whole]
    exact laterSplits
  | cons piece rest inner =>
    rcases List.forall_mem_cons.mp complete with ⟨first, others⟩
    have isProper := splits.proper piece List.mem_cons_self
    have joined := inner splits.tail others
    rw [← splits.whole, List.flatMap_cons, List.append_assoc]
    exact cons isProper (fun lacks => absurd lacks (by simp [first])) joined

end Splits

/-! ## How arguments are taken apart -/

namespace Flag

theorem isFlag_toText (flag : Flag) : Arguments.isFlag flag.toText = true := by
  cases flag <;> decide

theorem ofText?_toText (flag : Flag) : ofText? flag.toText = some flag := by
  cases flag <;> decide

theorem toText_of_ofText?
    {argument : Text}
    {flag : Flag}
    (found : ofText? argument = some flag) :
    argument = flag.toText := by
  rw [ofText?] at found
  have written := List.find?_some found
  exact (eq_of_beq written).symm

theorem ofText?_eq_none_iff
    {argument : Text} :
    ofText? argument = none ↔ ∀ flag : Flag, argument ≠ flag.toText := by
  constructor
  · rintro missing flag rfl
    rw [ofText?_toText] at missing
    cases missing
  · intro other
    cases found : ofText? argument with
    | none => rfl
    | some flag => exact absurd (toText_of_ofText? found) (other flag)

end Flag

/-- The pieces of some arguments. -/
def piecesOf : List Text → List Piece
  | [] => []
  | argument :: rest =>
    if !Arguments.isFlag argument then
      .positional argument :: piecesOf rest
    else
      match Flag.ofText? argument with
      | none => .unknown argument :: piecesOf rest
      | some flag =>
        if flag.takesValue then
          match rest with
          | [] => [.unvalued flag]
          | value :: others => .setting flag value :: piecesOf others
        else
          .switch flag :: piecesOf rest

theorem splits_piecesOf (arguments : List Text) : Splits arguments (piecesOf arguments) := by
  fun_induction piecesOf arguments with
  | case1 => exact .nil
  | case2 argument rest positional inner =>
    have isProper : (Piece.positional argument).IsProper := by
      simpa [Piece.IsProper] using positional
    exact inner.cons isProper nofun
  | case3 argument rest isFlag missing inner =>
    have isProper : (Piece.unknown argument).IsProper :=
      ⟨by simpa using isFlag, Flag.ofText?_eq_none_iff.mp missing⟩
    exact inner.cons isProper nofun
  | case4 argument isFlag flag found takes =>
    have isProper : (Piece.unvalued flag).IsProper := takes
    rw [Flag.toText_of_ofText? found]
    exact Splits.nil.cons isProper fun _ => rfl
  | case5 argument isFlag flag found takes value others inner =>
    have isProper : (Piece.setting flag value).IsProper := takes
    rw [Flag.toText_of_ofText? found]
    exact inner.cons isProper nofun
  | case6 argument rest isFlag flag found takes inner =>
    have isProper : (Piece.switch flag).IsProper := by
      simpa [Piece.IsProper] using takes
    rw [Flag.toText_of_ofText? found]
    exact inner.cons isProper nofun

/-- Arguments fall apart in one way only. -/
theorem Splits.eq_piecesOf
    {arguments : List Text}
    {pieces : List Piece}
    (splits : Splits arguments pieces) :
    pieces = piecesOf arguments := by
  induction pieces generalizing arguments with
  | nil =>
    rw [← splits.whole]
    rfl
  | cons piece rest inner =>
    have later := inner splits.tail
    have isProper := splits.proper piece List.mem_cons_self
    rw [← splits.whole, List.flatMap_cons]
    cases piece with
    | positional argument =>
      have notFlag : Arguments.isFlag argument = false := isProper
      simp [Piece.written, piecesOf, notFlag, ← later]
    | unknown argument =>
      rcases isProper with ⟨isFlag, other⟩
      simp [Piece.written, piecesOf, isFlag, Flag.ofText?_eq_none_iff.mpr other, ← later]
    | switch flag =>
      have takesNone : flag.takesValue = false := isProper
      simp [Piece.written, piecesOf, flag.isFlag_toText, flag.ofText?_toText, takesNone, ← later]
    | setting flag value =>
      have takes : flag.takesValue = true := isProper
      simp [Piece.written, piecesOf, flag.isFlag_toText, flag.ofText?_toText, takes, ← later]
    | unvalued flag =>
      have takes : flag.takesValue = true := isProper
      rw [splits.last rfl]
      simp [Piece.written, piecesOf, flag.isFlag_toText, flag.ofText?_toText, takes]

/-! ## Sorting -/

namespace Arguments

/-- The arguments with more pieces. -/
def add
    (arguments : Arguments)
    (pieces : List Piece) :
    Arguments where
  positional := arguments.positional ++ pieces.filterMap Piece.positional?
  flags := arguments.flags.overriddenBy (pieces.filterMap Piece.given?)
  unknown := arguments.unknown ++ pieces.filterMap Piece.unknown?

theorem add_nil (arguments : Arguments) : arguments.add [] = arguments := by
  simp [add, FlagValues.overriddenBy]

section

variable
    (arguments : Arguments)
    (pieces : List Piece)

theorem add_positional (argument : Text) :
    arguments.add (.positional argument :: pieces)
      = (arguments.addPositional argument).add pieces := by
  simp [add, addPositional, List.filterMap_cons, Piece.positional?, Piece.unknown?, Piece.given?]

theorem add_unknown (argument : Text) :
    arguments.add (.unknown argument :: pieces)
      = (arguments.addUnknown argument).add pieces := by
  simp [add, addUnknown, List.filterMap_cons, Piece.positional?, Piece.unknown?, Piece.given?]

theorem add_given
    {piece : Piece}
    {flag : Flag}
    {value : Text}
    (given : piece.given? = some (flag, value)) :
    arguments.add (piece :: pieces) = (arguments.setFlag flag value).add pieces := by
  cases piece with
  | positional argument => cases given
  | unknown argument => cases given
  | _ =>
    cases given
    rfl

end

theorem parseFrom_eq_add
    (sorted : Arguments)
    (arguments : List Text) :
    sorted.parseFrom arguments = sorted.add (piecesOf arguments) := by
  fun_induction piecesOf arguments generalizing sorted with
  | case1 => rw [parseFrom, add_nil]
  | case2 argument rest positional inner =>
    rw [parseFrom, if_pos positional, inner, add_positional]
  | case3 argument rest isFlag missing inner =>
    rw [parseFrom, if_neg isFlag, missing, add_unknown]
    exact inner _
  | case4 argument isFlag flag found takes =>
    rw [parseFrom, if_neg isFlag, found, add_given _ _ rfl, add_nil]
    exact if_pos takes
  | case5 argument isFlag flag found takes value others inner =>
    rw [parseFrom, if_neg isFlag, found, add_given _ _ rfl, ← inner]
    exact if_pos takes
  | case6 argument rest isFlag flag found takes inner =>
    rw [parseFrom, if_neg isFlag, found, add_given _ _ rfl, ← inner]
    exact if_neg takes

/-- The arguments are sorted by what their pieces are. -/
theorem parse_eq_add
    {arguments : List Text}
    {pieces : List Piece}
    (splits : Splits arguments pieces) :
    parse arguments = empty.add pieces := by
  rw [parse, parseFrom_eq_add, ← splits.eq_piecesOf]

/-- What sorting makes of the pieces. -/
structure Sorted
    (sorted : Arguments)
    (pieces : List Piece) :
    Prop where
  positional : sorted.positional = pieces.filterMap Piece.positional?
  unknown : sorted.unknown = pieces.filterMap Piece.unknown?
  /-- Each flag has the value that it was given last. -/
  flags :
    ∀ flag, sorted.flags.get? flag
      = (FlagValues.valuesOf flag (pieces.filterMap Piece.given?)).getLast?

theorem sorted_parse
    {arguments : List Text}
    {pieces : List Piece}
    (splits : Splits arguments pieces) :
    (parse arguments).Sorted pieces := by
  rw [parse_eq_add splits]
  refine ⟨rfl, rfl, ?_⟩
  intro flag
  rw [add, FlagValues.get?_overriddenBy]
  exact Option.or_none

/-- The arguments of two lists, the values of the second over those of the first. -/
def followedBy (first second : Arguments) : Arguments where
  positional := first.positional ++ second.positional
  flags := first.flags.overriddenBy second.flags
  unknown := first.unknown ++ second.unknown

theorem add_append
    (arguments : Arguments)
    (first second : List Piece) :
    arguments.add (first ++ second) = (arguments.add first).followedBy (empty.add second) := by
  simp [add, followedBy, empty, FlagValues.overriddenBy_append, FlagValues.overriddenBy_gathered]

end Arguments

/-! ## Lists one after the other -/

/-- The arguments end in a flag that lacks the value that it takes. -/
def Dangling (arguments : List Text) : Prop :=
  ∃ earlier flag, Splits arguments (earlier ++ [.unvalued flag])

/-- All arguments are flags that are known, each together with its value if it takes one. -/
def AllFlags (arguments : List Text) : Prop :=
  ∃ pieces, Splits arguments pieces ∧
    ∀ piece ∈ pieces, piece.lacksValue = false ∧ (piece.given?).isSome

theorem lacksValue_of_not_dangling
    {arguments : List Text}
    {pieces : List Piece}
    (complete : ¬ Dangling arguments)
    (splits : Splits arguments pieces) :
    ∀ piece ∈ pieces, piece.lacksValue = false := by
  intro piece member
  cases pieces using List.reverseRecOn with
  | nil => cases member
  | append_singleton earlier last =>
    have valued := splits.valued
    rw [List.dropLast_concat] at valued
    rcases List.mem_append.mp member with before | final
    · exact valued piece before
    · cases List.mem_singleton.mp final
      cases piece with
      | unvalued flag => exact absurd ⟨earlier, flag, splits⟩ complete
      | _ => rfl

theorem Splits.append_of_not_dangling
    {first second : List Text}
    {pieces others : List Piece}
    (splits : Splits first pieces)
    (complete : ¬ Dangling first)
    (otherSplits : Splits second others) :
    Splits (first ++ second) (pieces ++ others) :=
  splits.append (lacksValue_of_not_dangling complete splits) otherSplits

/-- Sorting two lists one after the other is sorting each of them. -/
theorem Arguments.parse_append
    {first : List Text}
    (complete : ¬ Dangling first)
    (second : List Text) :
    parse (first ++ second) = (parse first).followedBy (parse second) := by
  have firstSplits := splits_piecesOf first
  have secondSplits := splits_piecesOf second
  rw [parse_eq_add (firstSplits.append_of_not_dangling complete secondSplits),
    parse_eq_add firstSplits, parse_eq_add secondSplits, add_append]

/-- Of two values of a flag the one in the second list counts. -/
theorem Arguments.get?_parse_append
    {first : List Text}
    (complete : ¬ Dangling first)
    (second : List Text)
    (flag : Flag) :
    (parse (first ++ second)).flags.get? flag
      = ((parse second).flags.get? flag).or ((parse first).flags.get? flag) := by
  rw [parse_append complete, parse_eq_add (splits_piecesOf second)]
  exact FlagValues.get?_overriddenBy_gathered _ _ flag

/-- Flags between other arguments change nothing but the values of flags. -/
theorem Arguments.parse_between
    {before inserted : List Text}
    (complete : ¬ Dangling before)
    (flags : AllFlags inserted)
    (after : List Text) :
    parse (before ++ inserted ++ after)
      = { parse (before ++ after) with flags := (parse (before ++ inserted ++ after)).flags } := by
  rcases flags with ⟨pieces, splits, onlyFlags⟩
  have noPositional : pieces.filterMap Piece.positional? = [] :=
    List.filterMap_eq_nil_iff.mpr fun piece member =>
      (Piece.neither_of_given (onlyFlags piece member).2).1
  have noUnknown : pieces.filterMap Piece.unknown? = [] :=
    List.filterMap_eq_nil_iff.mpr fun piece member =>
      (Piece.neither_of_given (onlyFlags piece member).2).2
  have laterSplits := splits.append (fun piece member => (onlyFlags piece member).1)
    (splits_piecesOf after)
  have sortedLater := sorted_parse laterSplits
  have sortedAfter := sorted_parse (splits_piecesOf after)
  rw [List.append_assoc, parse_append complete, parse_append complete]
  simp [followedBy, sortedLater.positional, sortedAfter.positional, noPositional,
    sortedLater.unknown, sortedAfter.unknown, noUnknown]

/-! ## What a list ends in can be computed -/

theorem dangling_iff
    {arguments : List Text} :
    Dangling arguments ↔ ∃ piece ∈ piecesOf arguments, piece.lacksValue = true := by
  constructor
  · rintro ⟨earlier, flag, splits⟩
    rw [← splits.eq_piecesOf]
    exact ⟨_, List.mem_append_right _ (List.mem_singleton_self _), rfl⟩
  · rintro ⟨piece, member, lacks⟩
    by_contra complete
    rw [lacksValue_of_not_dangling complete (splits_piecesOf arguments) piece member] at lacks
    cases lacks

theorem allFlags_iff
    {arguments : List Text} :
    AllFlags arguments ↔
      ∀ piece ∈ piecesOf arguments, piece.lacksValue = false ∧ (piece.given?).isSome := by
  constructor
  · rintro ⟨pieces, splits, onlyFlags⟩
    rwa [← splits.eq_piecesOf]
  · exact fun onlyFlags => ⟨_, splits_piecesOf arguments, onlyFlags⟩

instance : DecidablePred Dangling := fun _ => decidable_of_iff' _ dangling_iff

instance : DecidablePred AllFlags := fun _ => decidable_of_iff' _ allFlags_iff

/-! ## Carrying out a command -/

section

variable
    {arguments : List Text}
    {options : CheckedOptions}
    (complaint : Json.Complaint)

theorem run_eval
    (known : (Arguments.parse arguments).unknown = [])
    (accepted : options? (Arguments.parse arguments).flags = .ok options) :
    run complaint (text "eval" :: arguments) = evalCommand options (Arguments.parse arguments) := by
  simp only [run, known, accepted]
  rfl

theorem run_explain
    (known : (Arguments.parse arguments).unknown = [])
    (accepted : options? (Arguments.parse arguments).flags = .ok options) :
    run complaint (text "explain" :: arguments)
      = explainCommand options (Arguments.parse arguments) := by
  simp only [run, known, accepted]
  rfl

end

/--
Arguments compose.  Unless the first of two lists ends in a flag without its value, sorting
both keeps the positional arguments and the unknown flags of the first before those of the
second, and the values of the second override those of the first.  Every argument is read in
exactly one piece, and sorting keeps the pieces in order.  Flags with their values leave the
expression that is evaluated or explained as it is, wherever they stand.
-/
theorem arguments_compose :
    (∀ first second : List Text, ¬ Dangling first →
      (Arguments.parse (first ++ second)).positional
          = (Arguments.parse first).positional ++ (Arguments.parse second).positional ∧
        (Arguments.parse (first ++ second)).unknown
          = (Arguments.parse first).unknown ++ (Arguments.parse second).unknown ∧
        (Arguments.parse (first ++ second)).flags
          = (Arguments.parse first).flags.overriddenBy (Arguments.parse second).flags ∧
        ∀ flag, (Arguments.parse (first ++ second)).flags.get? flag
          = ((Arguments.parse second).flags.get? flag).or
              ((Arguments.parse first).flags.get? flag)) ∧
    (∀ arguments : List Text,
      (∃! pieces, Splits arguments pieces) ∧
        ∀ pieces, Splits arguments pieces → (Arguments.parse arguments).Sorted pieces) ∧
    (∀ before inserted after : List Text, ¬ Dangling before → AllFlags inserted →
      (Arguments.parse (before ++ inserted ++ after)).positional
          = (Arguments.parse (before ++ after)).positional ∧
        (Arguments.parse (before ++ inserted ++ after)).unknown
          = (Arguments.parse (before ++ after)).unknown ∧
        ∀ complaint flags options,
          flags = (Arguments.parse (before ++ inserted ++ after)).flags →
          (Arguments.parse (before ++ after)).unknown = [] →
          options? flags = .ok options →
          run complaint (text "eval" :: (before ++ inserted ++ after))
              = evalCommand options { Arguments.parse (before ++ after) with flags := flags } ∧
            run complaint (text "explain" :: (before ++ inserted ++ after))
              = explainCommand options
                  { Arguments.parse (before ++ after) with flags := flags }) := by
  refine ⟨?_, ?_, ?_⟩
  · intro first second complete
    rw [Arguments.parse_append complete]
    refine ⟨rfl, rfl, rfl, fun flag => ?_⟩
    rw [← Arguments.parse_append complete]
    exact Arguments.get?_parse_append complete second flag
  · intro arguments
    refine ⟨⟨_, splits_piecesOf arguments, fun _ splits => splits.eq_piecesOf⟩, ?_⟩
    exact fun _ splits => Arguments.sorted_parse splits
  · intro before inserted after complete onlyFlags
    have between := Arguments.parse_between complete onlyFlags after
    have positional := congrArg Arguments.positional between
    have unknown := congrArg Arguments.unknown between
    refine ⟨positional, unknown, ?_⟩
    rintro complaint _ options rfl known accepted
    rw [← between]
    exact ⟨run_eval complaint (unknown.trans known) accepted,
      run_explain complaint (unknown.trans known) accepted⟩

theorem arguments_compose_rounding :
    (Arguments.parse ([text "--only", text "--json"] ++ [text "--only"])).flags.get? .only
        = some [] ∧
      ∃ options,
        options? [(.only, text "--json"), (.rounding, text "up")] = .ok options ∧
          run (fun _ => []) [text "eval", text "--only", text "--json", text "1",
              text "--rounding", text "up", text "+", text "2"]
            = evalCommand options
                ⟨[text "1", text "+", text "2"],
                  [(.only, text "--json"), (.rounding, text "up")], []⟩ := by
  rcases arguments_compose with ⟨joined, _, between⟩
  have overridden := (joined [text "--only", text "--json"] [text "--only"] (by decide)).2.2.2 .only
  have seen := (between [text "--only", text "--json", text "1"] [text "--rounding", text "up"]
    [text "+", text "2"] (by decide) (by decide)).2.2 (fun _ => []) _ _ rfl rfl rfl
  exact ⟨overridden, _, rfl, seen.1⟩

end InfixCalc.Command
