import InfixCalc.Unicode.Decomposition

/-!
# Normalization

One text can be written in several ways: a letter with a mark, or the two apart,
and marks in different orders.  `normalize` takes all composites apart, puts the
marks in order, and composes again what can be composed.
-/

namespace InfixCalc.Unicode

/-- The class of a mark, zero for all other code points. -/
def combiningClass (point : Nat) : Nat :=
  if point < 0x300 then 0
  else
    match entryOf? combiningClasses point with
    | some entry => entry.points.head?.getD 0
    | none => 0

namespace Hangul

/-- The first leading consonant. -/
def firstLeading : Nat := 0x1100

/-- How many leading consonants there are. -/
def leadingCount : Nat := 19

/-- The first vowel. -/
def firstVowel : Nat := 0x1161

/-- How many vowels there are. -/
def vowelCount : Nat := 21

/-- The code point before the first trailing consonant. -/
def beforeTrailing : Nat := 0x11A7

/-- How many trailing consonants there are, none included. -/
def trailingCount : Nat := 28

/-- The first syllable. -/
def firstSyllable : Nat := 0xAC00

/-- How many syllables there are. -/
def syllableCount : Nat := leadingCount * vowelCount * trailingCount

/-- The two or three letters of a syllable. -/
def letters? (point : Nat) : Option (List Nat) :=
  if firstSyllable ≤ point ∧ point < firstSyllable + syllableCount then
    let index := point - firstSyllable
    let leading := firstLeading + index / (vowelCount * trailingCount)
    let vowel := firstVowel + index / trailingCount % vowelCount
    let trailing := index % trailingCount
    some (if trailing = 0 then [leading, vowel] else [leading, vowel, beforeTrailing + trailing])
  else
    none

/-- The syllable of a consonant and a vowel, or of such a syllable and another consonant. -/
def syllable? (first second : Nat) : Option Nat :=
  if firstLeading ≤ first ∧ first < firstLeading + leadingCount
      ∧ firstVowel ≤ second ∧ second < firstVowel + vowelCount then
    some (firstSyllable
      + ((first - firstLeading) * vowelCount + (second - firstVowel)) * trailingCount)
  else if firstSyllable ≤ first ∧ first < firstSyllable + syllableCount
      ∧ (first - firstSyllable) % trailingCount = 0
      ∧ beforeTrailing < second ∧ second < beforeTrailing + trailingCount then
    some (first + (second - beforeTrailing))
  else
    none

end Hangul

/-- The parts of a code point; none below U+00C0 has any. -/
def parts? (point : Nat) : Option (List Nat) :=
  if point < 0xC0 then none
  else
    (Hangul.letters? point).or <|
      ((entryOf? composites point).or (entryOf? decomposed point)).map Entry.points

/-- All parts of a code point, composites among its parts being taken apart `depth` times more. -/
def decomposeWithin
    (depth point : Nat) :
    List Nat :=
  match parts? point with
  | none => [point]
  | some parts =>
    match depth with
    | 0 => parts
    | depth + 1 => parts.flatMap (decomposeWithin depth)

/-- All parts of a code point.  Composites are nested three deep at most. -/
def decompose (point : Nat) : List Nat :=
  decomposeWithin 3 point

/-- Put a code point in front of ordered ones, and a mark behind marks of lower classes. -/
def insertMark
    (point : Nat) :
    List Nat → List Nat
  | [] => [point]
  | next :: rest =>
    if 0 < combiningClass next ∧ combiningClass next < combiningClass point then
      next :: insertMark point rest
    else
      point :: next :: rest

/-- Put marks in the order of their classes. -/
def orderMarks (points : List Nat) : List Nat :=
  points.foldr insertMark []

/-- The composite of two code points. -/
def composite? (first second : Nat) : Option Nat :=
  (Hangul.syllable? first second).or <|
    (composites.find? fun entry => entry.points == [first, second]).map (·.span.first)

/--
Compose what follows a character with it.  Marks that stand between, the last
one first, are in the way of marks that are not of a higher class.
-/
def composeAfter
    (character : Nat)
    (between : List Nat) :
    List Nat → List Nat
  | [] => character :: between.reverse
  | point :: rest =>
    let blocked :=
      match between with
      | [] => false
      | last :: _ => combiningClass point ≤ combiningClass last
    match if blocked then none else composite? character point with
    | some composite => composeAfter composite between rest
    | none =>
      if combiningClass point = 0 then
        character :: between.reverse ++ composeAfter point [] rest
      else
        composeAfter character (point :: between) rest

/-- Compose what can be composed. -/
def compose : List Nat → List Nat
  | [] => []
  | point :: rest =>
    if combiningClass point = 0 then composeAfter point [] rest else point :: compose rest

/-- The one way of writing that stands for all. -/
def normalize (points : List Nat) : List Nat :=
  compose (orderMarks (points.flatMap decompose))

end InfixCalc.Unicode
