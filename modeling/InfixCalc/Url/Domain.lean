import InfixCalc.Unicode.Direction
import InfixCalc.Unicode.Fold
import InfixCalc.Unicode.Joining
import InfixCalc.Url.Punycode

/-!
# Domain names

A domain name is folded and normalized, and then each of its labels has to be in
order: one that begins with `xn--` has to stand for a label that ASCII cannot
write and that folding leaves as it is, one with other than ASCII characters has
to follow the rules on marks, joiners and directions, and all others are in order.
-/

namespace InfixCalc.Url.Domain

open Unicode

/-- The two characters that join, or keep apart, the letters around them. -/
def isJoiner (point : Nat) : Bool :=
  point == 0x200C || point == 0x200D

/-- A mark that joins consonants. -/
def isVirama (point : Nat) : Bool :=
  combiningClass point == 9

/-- A letter that joins what follows it. -/
def joinsOnward (point : Nat) : Bool :=
  isIn leftJoining point || isIn dualJoining point

/-- A letter that joins what precedes it. -/
def joinsBack (point : Nat) : Bool :=
  isIn rightJoining point || isIn dualJoining point

/--
Whether the first joiner of a label may stand where it does, if there is one:
after a virama either may, and the one that keeps apart also between letters
that join.
-/
def joiner? (label : List Nat) : Option Bool :=
  let before := label.takeWhile (!isJoiner ·)
  match label.dropWhile (!isJoiner ·) with
  | [] => none
  | joiner :: after =>
    some <|
      match before.getLast? with
      | none => false
      | some last =>
        isVirama last
          || (joiner == 0x200C && before.any joinsOnward && after.any joinsBack)

/-- How a character takes part in the direction of a line. -/
inductive Direction where
  | leftToRight
  | rightToLeft
  | arabicNumber
  | europeanNumber
  | neutral
  | nonspacing
  deriving DecidableEq, Repr

/-- The direction of a character. -/
def Direction.of (point : Nat) : Direction :=
  if isIn Unicode.rightToLeft point then rightToLeft
  else if isIn arabicNumbers point then arabicNumber
  else if isIn europeanNumbers point then europeanNumber
  else if isIn Unicode.neutral point then neutral
  else if isIn Unicode.nonspacing point then nonspacing
  else leftToRight

/--
Whether directions may stand side by side.  Where none goes from right to left
all may; otherwise none may go from left to right, the last one that takes room
has to be that of a letter or a digit, and there are digits of one kind only.
-/
def directionsAgree (directions : List Direction) : Bool :=
  if directions.contains .rightToLeft || directions.contains .arabicNumber then
    let spacing := (directions.reverse.dropWhile (· == .nonspacing)).reverse
    !spacing.contains .leftToRight
      && spacing.getLast? != some .neutral
      && !(spacing.contains .arabicNumber && spacing.contains .europeanNumber)
  else
    true

/-- Whether a folded label that is not ASCII is in order.  A joiner settles the matter. -/
def isOrderly (label : List Nat) : Bool :=
  match label with
  | [] => false
  | first :: _ =>
    !isIn marks first
      && (joiner? label).getD (directionsAgree (label.map Direction.of))

/-- Whether a code point is ASCII. -/
def isAscii (point : Nat) : Bool :=
  point < 0x80

/-- What a label that stands for another one begins with: `xn--`. -/
def encodedMark : List Nat := [0x78, 0x6E, 0x2D, 0x2D]

/-- Whether the label that a label stands for, its mark taken off, is in order. -/
def isOrderlyEncoded (written : List Nat) : Bool :=
  written.all isAscii && !encodedMark.isPrefixOf written
    && match Punycode.decode? written with
      | none => false
      | some label =>
        !label.all isAscii && fold? label == some label && normalize label == label
          && isOrderly label

/-- Whether a folded label is in order; an empty one is. -/
def isLabel (label : List Nat) : Bool :=
  if encodedMark.isPrefixOf label then isOrderlyEncoded (label.drop encodedMark.length)
  else label.all isAscii || isOrderly label

/-- The folded code points of a domain name whose labels are in order. -/
def fold? (points : List Nat) : Option (List Nat) :=
  match Unicode.fold? points with
  | none => none
  | some folded =>
    let normal := normalize folded
    if (pieces (· == 0x2E) normal).all isLabel then some normal else none

end InfixCalc.Url.Domain
