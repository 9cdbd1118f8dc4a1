import InfixCalc.Text.Utf8

/-!
# Paths

A path is cut into segments, and the segments that mean "here" and "one up" are
resolved as they come; a path never leads above its root.  What a path may not
hold is written as percent escapes, and escapes that are there already stay.
-/

namespace InfixCalc.Url

/-- The kinds of address whose paths follow different rules. -/
inductive Kind where
  /-- The schemes of the web, where a backslash is a slash. -/
  | web
  /-- Files, where moreover a path may begin with a drive letter. -/
  | file
  /-- All other schemes. -/
  | other
  deriving DecidableEq, Repr

/-- A unit in lower case, if it is a Latin letter. -/
def lowerCase (unit : CodeUnit) : CodeUnit :=
  if 0x41 ≤ unit && unit ≤ 0x5A then unit + 0x20 else unit

/-- What separates segments. -/
def isSlash (kind : Kind) (unit : CodeUnit) : Bool :=
  unit == 0x2F || (unit == 0x5C && kind != .other)

/-- An upper-case hexadecimal digit. -/
def hexUnit (digit : Nat) : CodeUnit :=
  if digit < 10 then (0x30 + digit).toUInt16 else (0x37 + digit).toUInt16

/-- The percent escape of a byte. -/
def escapeByte (byte : UInt8) : Text :=
  [0x25, hexUnit (byte.toNat / 16), hexUnit (byte.toNat % 16)]

/-- Code points that every path escapes: controls and what is not ASCII. -/
def isControl (point : Nat) : Bool :=
  point < 0x20 || 0x7E < point

/-- Code points that a path of segments escapes. -/
def isEscaped (point : Nat) : Bool :=
  isControl point
    || [0x20, 0x22, 0x23, 0x3C, 0x3E, 0x3F, 0x5E, 0x60, 0x7B, 0x7D].contains point

/-- A text with some code points escaped. -/
def escape
    (escaped : Nat → Bool)
    (text : Text) :
    Text :=
  text.codePoints.flatMap fun point =>
    if escaped point then (Text.Utf8.encodePoint point).flatMap escapeByte
    else Text.ofCodePoint point

/-- A segment that means "here". -/
def isHere (segment : Text) : Bool :=
  let segment := segment.map lowerCase
  segment == text "." || segment == text "%2e"

/-- A segment that means "one up". -/
def isUp (segment : Text) : Bool :=
  let segment := segment.map lowerCase
  segment == text ".." || segment == text ".%2e" || segment == text "%2e."
    || segment == text "%2e%2e"

/-- A letter with a colon or a bar. -/
def isDriveLetter (segment : Text) : Bool :=
  match segment with
  | [letter, mark] =>
    ((0x41 ≤ letter && letter ≤ 0x5A) || (0x61 ≤ letter && letter ≤ 0x7A))
      && (mark == 0x3A || mark == 0x7C)
  | _ => false

/-- A segment of a file's path as it is kept: the first one may be a drive letter. -/
def keptSegment
    (kind : Kind)
    (reversed : List Text)
    (segment : Text) :
    Text :=
  if kind == .file && reversed.isEmpty && isDriveLetter segment then
    segment.take 1 ++ [0x3A]
  else
    escape isEscaped segment

/-- One segment up, but not above the root, nor above the drive letter of a file. -/
def up
    (kind : Kind)
    (reversed : List Text) :
    List Text :=
  match reversed with
  | [] => []
  | [only] => if kind == .file && isDriveLetter only then [only] else []
  | _ :: rest => rest

/-- Resolve segments; those resolved so far are in reverse. -/
def resolve
    (kind : Kind)
    (reversed : List Text) :
    List Text → List Text
  | [] => reversed.reverse
  | segment :: rest =>
    if isUp segment then
      let shorter := up kind reversed
      resolve kind (if rest.isEmpty then [] :: shorter else shorter) rest
    else if isHere segment then
      resolve kind (if rest.isEmpty then [] :: reversed else reversed) rest
    else
      resolve kind (keptSegment kind reversed segment :: reversed) rest

/-- The path of a text that may begin with a slash.  On the web a path is never empty. -/
def absolutePath
    (kind : Kind)
    (address : Text) :
    Text :=
  match address with
  | [] => if kind == .other then [] else [0x2F]
  | first :: rest =>
    let segments := pieces (isSlash kind) (if isSlash kind first then rest else address)
    (resolve kind [] segments).flatMap fun segment => 0x2F :: segment

/-- The path of an address that has no segments. -/
def opaquePath (address : Text) : Text :=
  escape isControl address

end InfixCalc.Url
