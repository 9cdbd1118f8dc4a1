import InfixCalc.Inherent
import InfixCalc.Json.Basic

/-!
# Counting by name

The severities of diagnostics are counted in a record.  Names that the record has
from the start are counted from what is there, by putting a one behind its text.
-/

namespace InfixCalc

/-- How often something occurred; a name that was there before has a text. -/
inductive Tally where
  | count (number : Nat)
  | marks (written : Text)
  deriving DecidableEq, Repr

namespace Tally

/-- One more. -/
def next : Tally → Tally
  | count number => count (number + 1)
  | marks written => marks (written ++ text "1")

/-- What a name starts from. -/
def start (name : Text) : Tally :=
  match Inherent.textOf? name with
  | some written => marks written
  | none => count 0

/-- A tally as JSON. -/
def toJson : Tally → Json
  | count number => .nat number
  | marks written => .string written

end Tally

/-- The tallies of names, in the order in which the names first came. -/
abbrev Tallies := List (Text × Tally)

namespace Tallies

/-- Count one name.  What all records have in common cannot be counted. -/
def add
    (name : Text) :
    Tallies → Tallies
  | [] => if name == Inherent.commonName then [] else [(name, (Tally.start name).next)]
  | (present, tally) :: rest =>
    if present == name then (present, tally.next) :: rest
    else (present, tally) :: add name rest

/-- The three severities, none of which has occurred yet. -/
def severities : Tallies :=
  [(text "error", .count 0), (text "warning", .count 0), (text "info", .count 0)]

/-- Count severities by name; the three known ones are always there. -/
def ofSeverities (names : List Text) : Tallies :=
  names.foldl (fun tallies name => add name tallies) severities

/-- Tallies as JSON. -/
def toJson (tallies : Tallies) : Json :=
  .object (tallies.map fun (name, tally) => (name, tally.toJson))

end Tallies

end InfixCalc
