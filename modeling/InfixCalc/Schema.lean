import InfixCalc.Double.Reader
import InfixCalc.Schema.Issue

/-!
# Schemas

A schema describes the values that are accepted, and reading a value by it
gives either all issues, in the order of the schema, or the data: the value
with defaults filled in, numbers made of what counts as one where the schema
asks for that, and members that the schema does not name left out.
-/

namespace InfixCalc

/-- What a number has to be. -/
structure NumberRule where
  /-- Whether other values are turned into numbers first. -/
  coerced : Bool := false
  /-- Whether a fraction is refused. -/
  integer : Bool := false
  minimum : Option Nat := none
  maximum : Option Nat := none
  deriving DecidableEq, Repr

/-- A description of values. -/
inductive Schema where
  /-- A string of at most so many units. -/
  | string (longest : Option Nat)
  | number (rule : NumberRule)
  /-- One of some names. -/
  | choice (names : List Text)
  /-- One of the names of several groups. -/
  | choices (groups : List (List Text))
  | array (item : Schema)
  | record (fields : List (Text × Schema))
  /-- A record of one of several forms, told apart by the name at `tag`. -/
  | tagged (tag : Text) (forms : List (Text × Schema))
  /-- A value that may be missing. -/
  | optional (schema : Schema)
  /-- A value or `null`. -/
  | nullable (schema : Schema)
  /-- A value with a substitute for when it is missing. -/
  | withDefault (schema : Schema) (substitute : Json)

namespace Json

/-- The number that a value counts as. -/
def toNumber : Json → Double
  | null => .zero false
  | bool true => .ofNat 1
  | bool false => .zero false
  | number value => value
  | other => .ofText other.display

end Json

namespace NumberRule

/-- What is wrong with a number, all of it. -/
def complaints
    (rule : NumberRule)
    (value : Double) :
    List Complaint :=
  (if rule.integer && !value.isInteger then [.notInteger] else [])
    ++ (rule.minimum.toList.filter value.ltNat).map .tooSmall
    ++ (rule.maximum.toList.filter value.gtNat).map .tooBig

/-- The value that the rule looks at. -/
def input
    (rule : NumberRule)
    (value : Option Json) :
    Option Json :=
  if rule.coerced then some (.number ((value.map Json.toNumber).getD .nan)) else value

/-- Read a number by the rule. -/
def read
    (rule : NumberRule)
    (value : Option Json) :
    Except (List Issue) (Option Json) :=
  match rule.input value with
  | some (.number .nan) => .error [.here (.wrongKind .number .nan)]
  | some (.number number) =>
    match rule.complaints number with
    | [] => .ok (some (.number number))
    | complaints => .error (complaints.map .here)
  | other => .error [.here (.wrongKind .number (.of other))]

end NumberRule

namespace Schema

/-- Read a string of at most so many units. -/
def readString
    (longest : Option Nat)
    (value : Option Json) :
    Except (List Issue) (Option Json) :=
  match value with
  | some (.string written) =>
    match longest.filter (· < written.length) with
    | none => .ok (some (.string written))
    | some bound => .error [.here (.tooLong bound)]
  | other => .error [.here (.wrongKind .string (.of other))]

/-- Read one of some names. -/
def readChoice
    (names : List Text)
    (value : Option Json) :
    Except (List Issue) (Option Json) :=
  match value with
  | some (.string written) =>
    if names.contains written then .ok (some (.string written))
    else .error [.here (.unknownName names written)]
  | other => .error [.here (.notAName names (.of other))]

/-- Read one of the names of several groups. -/
def readChoices
    (groups : List (List Text))
    (value : Option Json) :
    Except (List Issue) (Option Json) :=
  match value with
  | some (.string written) =>
    if groups.any (·.contains written) then .ok (some (.string written))
    else .error [.here .noAlternative]
  | _ => .error [.here .noAlternative]

/-- Read all items, from an index on. -/
def readItems
    (readItem : Json → Except (List Issue) (Option Json))
    (index : Nat) :
    List Json → Except (List Issue) (List Json)
  | [] => .ok []
  | item :: rest =>
    match readItem item, readItems readItem (index + 1) rest with
    | .ok data, .ok others => .ok (data.toList ++ others)
    | .ok _, .error issues => .error issues
    | .error issues, .ok _ => .error (issues.map (.under (.item index)))
    | .error issues, .error others => .error (issues.map (.under (.item index)) ++ others)

mutual

/-- Read a value that may be missing: all issues, or the data, which may be missing too. -/
def read
    (schema : Schema)
    (value : Option Json) :
    Except (List Issue) (Option Json) :=
  match schema with
  | string longest => readString longest value
  | number rule => rule.read value
  | choice names => readChoice names value
  | choices groups => readChoices groups value
  | array item =>
    match value with
    | some (.array items) =>
      (readItems (fun item' => read item (some item')) 0 items).map fun data => some (.array data)
    | other => .error [.here (.wrongKind .array (.of other))]
  | record fields =>
    match value with
    | some (.object members) =>
      (readFields fields members).map fun data => some (.object data)
    | other => .error [.here (.wrongKind .object (.of other))]
  | tagged tag forms =>
    match value with
    | some (.object members) =>
      match Json.lookup members tag with
      | some (.string name) =>
        (readForm (forms.map Prod.fst) tag name forms members).map fun data =>
          some (.object ((tag, .string name) :: data))
      | _ => .error [⟨[.member tag], .unknownTag (forms.map Prod.fst)⟩]
    | other => .error [.here (.wrongKind .object (.of other))]
  | optional schema =>
    match value with
    | none => .ok none
    | some value => read schema (some value)
  | nullable schema =>
    match value with
    | some .null => .ok (some .null)
    | other => read schema other
  | withDefault schema substitute => read schema (some (value.getD substitute))

/-- Read the members that fields name, in the order of the fields. -/
def readFields
    (fields : List (Text × Schema))
    (members : List (Text × Json)) :
    Except (List Issue) (List (Text × Json)) :=
  match fields with
  | [] => .ok []
  | (name, schema) :: rest =>
    match read schema (Json.lookup members name), readFields rest members with
    | .ok data, .ok others => .ok (data.toList.map (fun value => (name, value)) ++ others)
    | .ok _, .error issues => .error issues
    | .error issues, .ok _ => .error (issues.map (.under (.member name)))
    | .error issues, .error others => .error (issues.map (.under (.member name)) ++ others)

/-- Read the members of the form that has a name. -/
def readForm
    (tags : List Text)
    (tag name : Text)
    (forms : List (Text × Schema))
    (members : List (Text × Json)) :
    Except (List Issue) (List (Text × Json)) :=
  match forms with
  | [] => .error [⟨[.member tag], .unknownTag tags⟩]
  | (form, schema) :: rest =>
    if form = name then
      (read schema (some (.object members))).map fun data =>
        match data with
        | some (.object read) => read
        | _ => []
    else
      readForm tags tag name rest members

end

/-- Whether a value is accepted. -/
def accepts
    (schema : Schema)
    (value : Json) :
    Bool :=
  match schema.read (some value) with
  | .ok _ => true
  | .error _ => false

end Schema

end InfixCalc
