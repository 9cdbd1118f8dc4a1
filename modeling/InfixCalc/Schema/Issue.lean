import InfixCalc.Json.Basic

/-!
# Issues

An issue says where a value differs from what a schema wants, and how.  The
wording and the machine-readable form are here, in one place.
-/

namespace InfixCalc

/-- The kinds of values that issues tell apart. -/
inductive Kind where
  | missing
  | null
  | boolean
  | number
  | nan
  | string
  | array
  | object
  deriving DecidableEq, Repr

namespace Kind

/-- The kind of a value that may be missing. -/
def of : Option Json → Kind
  | none => missing
  | some .null => null
  | some (.bool _) => boolean
  | some (.number .nan) => nan
  | some (.number _) => number
  | some (.string _) => string
  | some (.array _) => array
  | some (.object _) => object

/-- The name of a kind. -/
def name : Kind → Text
  | missing => text "undefined"
  | null => text "null"
  | boolean => text "boolean"
  | number => text "number"
  | nan => text "nan"
  | string => text "string"
  | array => text "array"
  | object => text "object"

end Kind

/-- One step from a value to a part of it. -/
inductive Segment where
  | member (name : Text)
  | item (index : Nat)
  deriving DecidableEq, Repr

namespace Segment

/-- A step as it stands in a path. -/
def toText : Segment → Text
  | member name => name
  | item index => Text.numeral index

/-- A step in the machine-readable form. -/
def toJson : Segment → Json
  | member name => .string name
  | item index => .nat index

end Segment

/-- What is wrong with a value. -/
inductive Complaint where
  /-- Another kind of value was wanted. -/
  | wrongKind (expected : Kind) (received : Kind)
  /-- One of some names was wanted, and this is no string. -/
  | notAName (names : List Text) (received : Kind)
  /-- One of some names was wanted, and this is another string. -/
  | unknownName (names : List Text) (received : Text)
  | notInteger
  | tooSmall (minimum : Nat)
  | tooBig (maximum : Nat)
  | tooLong (maximum : Nat)
  /-- None of several alternatives fits. -/
  | noAlternative
  /-- The tag that tells cases apart is none of theirs. -/
  | unknownTag (tags : List Text)
  deriving DecidableEq, Repr

namespace Complaint

/-- Names in quotes, separated by bars. -/
def alternatives (names : List Text) : Text :=
  Text.join (text " | ") (names.map fun name => text "'" ++ name ++ text "'")

/-- The code of a complaint. -/
def code : Complaint → Text
  | wrongKind .. => text "invalid_type"
  | notAName .. => text "invalid_type"
  | unknownName .. => text "invalid_enum_value"
  | notInteger => text "invalid_type"
  | tooSmall _ => text "too_small"
  | tooBig _ => text "too_big"
  | tooLong _ => text "too_big"
  | noAlternative => text "invalid_union"
  | unknownTag _ => text "invalid_union_discriminator"

/-- What was wanted and what was found; a value that is missing was required. -/
def mismatch
    (expected : Text)
    (received : Kind) :
    Text :=
  match received with
  | .missing => text "Required"
  | other => text "Expected " ++ expected ++ text ", received " ++ other.name

/-- The message of a complaint. -/
def message : Complaint → Text
  | wrongKind expected received => mismatch expected.name received
  | notAName names received => mismatch (alternatives names) received
  | unknownName names received =>
    text "Invalid enum value. Expected " ++ alternatives names
      ++ text ", received '" ++ received ++ text "'"
  | notInteger => text "Expected integer, received float"
  | tooSmall minimum => text "Number must be greater than or equal to " ++ Text.numeral minimum
  | tooBig maximum => text "Number must be less than or equal to " ++ Text.numeral maximum
  | tooLong maximum =>
    text "String must contain at most " ++ Text.numeral maximum ++ text " character(s)"
  | noAlternative => text "Invalid input"
  | unknownTag tags => text "Invalid discriminator value. Expected " ++ alternatives tags

end Complaint

/-- A complaint about a part of a value, and the way to that part. -/
structure Issue where
  path : List Segment
  complaint : Complaint
  deriving DecidableEq, Repr

namespace Issue

/-- A complaint about the value itself. -/
def here (complaint : Complaint) : Issue := ⟨[], complaint⟩

/-- The same issue, seen from a value that has the value at `segment`. -/
def under
    (segment : Segment)
    (issue : Issue) :
    Issue :=
  ⟨segment :: issue.path, issue.complaint⟩

/-- The path with a point between two steps. -/
def pathText (issue : Issue) : Text :=
  Text.join (text ".") (issue.path.map Segment.toText)

/-- The message of an issue. -/
def message (issue : Issue) : Text :=
  issue.complaint.message

/-- The path, or a word for the empty one, and the message. -/
def line
    (root : Text)
    (issue : Issue) :
    Text :=
  (if issue.pathText.isEmpty then root else issue.pathText) ++ text ": " ++ issue.message

/-- All issues on one line, `root` standing for the empty path. -/
def summary
    (root : Text)
    (issues : List Issue) :
    Text :=
  Text.join (text "; ") (issues.map (line root))

/-- The machine-readable form, its members in the order that belongs to the complaint. -/
def toJson (issue : Issue) : Json :=
  let code := (text "code", Json.string issue.complaint.code)
  let message := (text "message", Json.string issue.message)
  let path := (text "path", Json.array (issue.path.map Segment.toJson))
  let expected (value : Text) := (text "expected", Json.string value)
  let received (value : Text) := (text "received", Json.string value)
  let options (names : List Text) := (text "options", Json.array (names.map .string))
  let limit (name : String) (bound : Nat) (type : String) :=
    [(text name, Json.nat bound), (text "type", Json.literal type),
      (text "inclusive", Json.bool true), (text "exact", Json.bool false)]
  .object <|
    match issue.complaint with
    | .wrongKind wanted found =>
      [code, expected wanted.name, received found.name, path, message]
    | .notAName names found =>
      [expected (Complaint.alternatives names), received found.name, code, path, message]
    | .unknownName names found => [received found, code, options names, path, message]
    | .notInteger => [code, expected (text "integer"), received (text "float"), message, path]
    | .tooSmall minimum => code :: limit "minimum" minimum "number" ++ [message, path]
    | .tooBig maximum => code :: limit "maximum" maximum "number" ++ [message, path]
    | .tooLong maximum => code :: limit "maximum" maximum "string" ++ [message, path]
    | .noAlternative => [code, path, message]
    | .unknownTag tags => [code, options tags, path, message]

end Issue

end InfixCalc
