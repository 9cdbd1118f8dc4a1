import InfixCalc.Text

/-!
# Command-line arguments

What begins with two hyphens is a flag, all else is positional.  A flag that
takes a value takes the next argument, whatever it looks like, and an empty
value if there is none.
-/

namespace InfixCalc.Command

/-- The flags. -/
inductive Flag where
  | json
  | lexer
  | precision
  | rounding
  | only
  deriving DecidableEq, Repr

namespace Flag

/-- All flags. -/
def all : List Flag := [json, lexer, precision, rounding, only]

/-- A flag as it is written. -/
def toText : Flag → Text
  | json => text "--json"
  | lexer => text "--lexer"
  | precision => text "--precision"
  | rounding => text "--rounding"
  | only => text "--only"

/-- The flag that an argument writes. -/
def ofText? (argument : Text) : Option Flag :=
  all.find? fun flag => flag.toText == argument

/-- Whether the next argument is the value of the flag. -/
def takesValue : Flag → Bool
  | json => false
  | lexer => true
  | precision => true
  | rounding => true
  | only => true

end Flag

/-- The values of flags, in the order in which the flags first came. -/
abbrev FlagValues := List (Flag × Text)

/-- The value of a flag. -/
def FlagValues.get?
    (values : FlagValues)
    (flag : Flag) :
    Option Text :=
  match values with
  | [] => none
  | (present, held) :: rest =>
    if present = flag then some held else FlagValues.get? rest flag

/-- Give a flag a value; a flag that has one keeps its place. -/
def FlagValues.set
    (values : FlagValues)
    (flag : Flag)
    (value : Text) :
    FlagValues :=
  match values with
  | [] => [(flag, value)]
  | (present, held) :: rest =>
    if present = flag then (flag, value) :: rest
    else (present, held) :: FlagValues.set rest flag value

theorem FlagValues.get?_set_self
    (values : FlagValues)
    (flag : Flag)
    (value : Text) :
    (values.set flag value).get? flag = some value := by
  induction values with
  | nil => simp only [set, get?, if_true]
  | cons entry rest inner =>
    by_cases present : entry.1 = flag
    · simp only [set, get?, present, if_true]
    · simp only [set, get?, present, if_false, inner]

theorem FlagValues.get?_set_of_ne
    (values : FlagValues)
    {flag other : Flag}
    (value : Text)
    (different : flag ≠ other) :
    (values.set flag value).get? other = values.get? other := by
  induction values with
  | nil => simp only [set, get?, different, if_false]
  | cons entry rest inner =>
    by_cases present : entry.1 = flag
    · simp only [set, get?, present, different, if_true, if_false]
    · simp only [set, get?, present, if_false, inner]

/-- Arguments, sorted by what they are. -/
structure Arguments where
  positional : List Text
  flags : FlagValues
  unknown : List Text
  deriving DecidableEq, Repr

namespace Arguments

/-- No arguments. -/
def empty : Arguments := ⟨[], [], []⟩

/-- Whether an argument is written as a flag. -/
def isFlag (argument : Text) : Bool :=
  (text "--").isPrefixOf argument

/-- One more positional argument. -/
def addPositional
    (arguments : Arguments)
    (argument : Text) :
    Arguments :=
  { arguments with positional := arguments.positional ++ [argument] }

/-- One more flag that is not known. -/
def addUnknown
    (arguments : Arguments)
    (argument : Text) :
    Arguments :=
  { arguments with unknown := arguments.unknown ++ [argument] }

/-- A flag with its value. -/
def setFlag
    (arguments : Arguments)
    (flag : Flag)
    (value : Text) :
    Arguments :=
  { arguments with flags := arguments.flags.set flag value }

/-- Sort more arguments into those that are sorted already. -/
def parseFrom
    (arguments : Arguments) :
    List Text → Arguments
  | [] => arguments
  | argument :: rest =>
    if !isFlag argument then
      parseFrom (arguments.addPositional argument) rest
    else
      match Flag.ofText? argument with
      | none => parseFrom (arguments.addUnknown argument) rest
      | some flag =>
        if flag.takesValue then
          match rest with
          | [] => arguments.setFlag flag []
          | value :: others => parseFrom (arguments.setFlag flag value) others
        else
          parseFrom (arguments.setFlag flag (text "true")) rest

/-- Sort arguments. -/
def parse (arguments : List Text) : Arguments :=
  parseFrom empty arguments

end Arguments

end InfixCalc.Command
