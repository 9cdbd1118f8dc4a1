import InfixCalc.Double.Printer
import InfixCalc.Text

/-!
# JSON values

A JSON value keeps the members of an object in the order they were written in.
Where a name occurs more than once, its last occurrence counts.
-/

namespace InfixCalc

/-- A JSON value; its numbers are doubles. -/
inductive Json where
  | null
  | bool (value : Bool)
  | number (value : Double)
  | string (value : Text)
  | array (items : List Json)
  | object (members : List (Text × Json))
  deriving Repr, Inhabited

namespace Json

/-- The number of a natural number. -/
def nat (value : Nat) : Json :=
  number (.ofNat value)

/-- The number of an integer. -/
def int (value : Int) : Json :=
  number (.ofInt value)

/-- The string of a literal. -/
def literal (value : String) : Json :=
  string (text value)

/-- The value that counts for a name among members. -/
def lookup
    (members : List (Text × Json))
    (name : Text) :
    Option Json :=
  (members.reverse.find? fun member => member.1 == name).map Prod.snd

/-- The value of a name, if the value is an object that has it. -/
def get?
    (value : Json)
    (name : Text) :
    Option Json :=
  match value with
  | object members => lookup members name
  | _ => none

/-- The text of a string. -/
def text? : Json → Option Text
  | string value => some value
  | _ => none

/-- The double of a number. -/
def number? : Json → Option Double
  | number value => some value
  | _ => none

/-- Whether a value counts as true: all do but `null`, zero, no number and the empty text. -/
def isTruthy : Json → Bool
  | null => false
  | bool value => value
  | number value => !value.isZero && value != .nan
  | string value => !value.isEmpty
  | array _ => true
  | object _ => true

/-- The items of an array. -/
def items? : Json → Option (List Json)
  | array items => some items
  | _ => none

mutual

/--
The bare text of a value: no quotes around strings, items joined by commas, and
one fixed text for every object.
-/
def display : Json → Text
  | null => InfixCalc.text "null"
  | bool true => InfixCalc.text "true"
  | bool false => InfixCalc.text "false"
  | number value => value.toText
  | string value => value
  | array items => Text.join (InfixCalc.text ",") (displayItems items)
  | object _ => InfixCalc.text "[object Object]"

/-- The bare texts of items; an item that is `null` has none. -/
def displayItems : List Json → List Text
  | [] => []
  | null :: rest => [] :: displayItems rest
  | item :: rest => item.display :: displayItems rest

end

end Json

end InfixCalc
