import InfixCalc.Json.Basic

/-!
# Writing JSON

Values are written compactly, or over several lines with two blanks for each
level.  Strings escape quotes, backslashes, controls and surrogates without a
partner, and nothing else; numbers have their shortest text, and what is not
finite is `null`.
-/

namespace InfixCalc.Json

/-- A lower-case hexadecimal digit. -/
def hexUnit (digit : Nat) : CodeUnit :=
  if digit < 10 then (0x30 + digit).toUInt16 else (0x57 + digit).toUInt16

/-- The escape of a unit by its number. -/
def unicodeEscape (point : Nat) : Text :=
  [0x5C, 0x75, hexUnit (point / 0x1000 % 16), hexUnit (point / 0x100 % 16),
    hexUnit (point / 0x10 % 16), hexUnit (point % 16)]

/-- A code point as it stands between quotes. -/
def escapePoint (point : Nat) : Text :=
  if point = 0x22 then [0x5C, 0x22]
  else if point = 0x5C then [0x5C, 0x5C]
  else if point = 0x08 then [0x5C, 0x62]
  else if point = 0x0C then [0x5C, 0x66]
  else if point = 0x0A then [0x5C, 0x6E]
  else if point = 0x0D then [0x5C, 0x72]
  else if point = 0x09 then [0x5C, 0x74]
  else if point < 0x20 ∨ (0xD800 ≤ point ∧ point ≤ 0xDFFF) then unicodeEscape point
  else Text.ofCodePoint point

/-- A string in quotes. -/
def quote (value : Text) : Text :=
  0x22 :: (value.codePoints.flatMap escapePoint ++ [0x22])

/-- A number, and `null` for what is not finite. -/
def numberText (value : Double) : Text :=
  if value.isFinite then value.toText else text "null"

/-- Where the parts of a value stand: all in one line, or on lines of their own. -/
inductive Layout where
  | compact
  | indented (level : Nat)

namespace Layout

/-- The layout of the parts of a value. -/
def inner : Layout → Layout
  | compact => compact
  | indented level => indented (level + 1)

/-- What stands in front of a part, and at the end of a value that has parts. -/
def lineBreak : Layout → Text
  | compact => []
  | indented level => 0x0A :: List.replicate (2 * level) 0x20

/-- What stands between the name and the value of a member. -/
def colon : Layout → Text
  | compact => [0x3A]
  | indented _ => [0x3A, 0x20]

/-- Parts between brackets, separated by commas; brackets alone if there is no part. -/
def enclose
    (layout : Layout)
    (opening closing : CodeUnit)
    (parts : List Text) :
    Text :=
  if parts.isEmpty then
    [opening, closing]
  else
    opening :: (layout.inner.lineBreak
      ++ Text.join (0x2C :: layout.inner.lineBreak) parts
      ++ layout.lineBreak ++ [closing])

end Layout

mutual

/-- A value in a layout. -/
def write (layout : Layout) : Json → Text
  | null => text "null"
  | bool true => text "true"
  | bool false => text "false"
  | number value => numberText value
  | string value => quote value
  | array items => layout.enclose 0x5B 0x5D (writeItems layout.inner items)
  | object members => layout.enclose 0x7B 0x7D (writeMembers layout.inner members)

/-- The items of an array in a layout. -/
def writeItems (layout : Layout) : List Json → List Text
  | [] => []
  | item :: rest => write layout item :: writeItems layout rest

/-- The members of an object in a layout. -/
def writeMembers (layout : Layout) : List (Text × Json) → List Text
  | [] => []
  | (name, value) :: rest =>
    (quote name ++ layout.colon ++ write layout value) :: writeMembers layout rest

end

/-- A value in one line. -/
def compact (value : Json) : Text :=
  write .compact value

/-- A value over several lines, two blanks for each level. -/
def pretty (value : Json) : Text :=
  write (.indented 0) value

end InfixCalc.Json
