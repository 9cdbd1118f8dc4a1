import InfixCalc.Unicode.Normal
import InfixCalc.Unicode.Replacement

/-!
# Folding domain names

Domain names that differ in case, in the variants of their characters or in the
way of writing are one name.  `fold?` replaces every code point by what stands
for it, and fails where one may not occur.
-/

namespace InfixCalc.Unicode

/-- What becomes of a code point in a domain name. -/
inductive Fate where
  | kept
  | dropped
  | refused
  | replaced (points : List Nat)
  deriving DecidableEq, Repr

namespace Fate

/-- What the tables lead a code point to, if they have it. -/
def replacement? (point : Nat) : Option (List Nat) :=
  (((entryOf? folded point).map Entry.points).or
    ((entryOf? shifted point).map fun entry =>
      entry.points.map (· + (point - entry.span.first)))).or
    ((alternating.find? fun entry =>
      entry.span.contains point && (point - entry.span.first) % 2 == 0).map fun entry =>
        entry.points.map (· + (point - entry.span.first)))

/-- What becomes of a code point. -/
def of (point : Nat) : Fate :=
  if point < 0x80 then
    if 0x41 ≤ point ∧ point ≤ 0x5A then replaced [point + 0x20] else kept
  else if isIn Unicode.refused point then
    refused
  else if isIn Unicode.dropped point then
    dropped
  else
    match replacement? point with
    | some points => replaced points
    | none => if normalize [point] = [point] then kept else replaced (normalize [point])

/-- The code points that stand for a code point. -/
def points?
    (fate : Fate)
    (point : Nat) :
    Option (List Nat) :=
  match fate with
  | kept => some [point]
  | dropped => some []
  | refused => none
  | replaced points => some points

end Fate

/-- The code points that stand for some code points; none if one of them is refused. -/
def fold? : List Nat → Option (List Nat)
  | [] => some []
  | point :: rest =>
    match (Fate.of point).points? point, fold? rest with
    | some points, some others => some (points ++ others)
    | _, _ => none

end InfixCalc.Unicode
