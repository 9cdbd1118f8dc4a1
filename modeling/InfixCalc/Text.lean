/-!
# Texts

A text is a sequence of 16-bit code units.  Every position and every length of
this library counts code units, so a character beyond U+FFFF counts two, and a
text may hold one half of a surrogate pair without the other.

`Text.codePoints` joins the pairs, `Text.ofString` takes characters apart.
-/

namespace InfixCalc

/-- One 16-bit unit of a text. -/
abbrev CodeUnit := UInt16

/-- A sequence of code units. -/
abbrev Text := List CodeUnit

/-- The decimal digits `0` to `9`. -/
def CodeUnit.isDigit (unit : CodeUnit) : Bool :=
  0x30 ≤ unit && unit ≤ 0x39

/-- The number a decimal digit stands for. -/
def CodeUnit.digit (unit : CodeUnit) : Nat :=
  unit.toNat - 0x30

/-- The first half of a surrogate pair. -/
def CodeUnit.isHighSurrogate (unit : CodeUnit) : Bool :=
  0xD800 ≤ unit && unit ≤ 0xDBFF

/-- The pieces of a list between the members that separate them; there is always one. -/
def pieces
    {α : Type}
    (separates : α → Bool) :
    List α → List (List α)
  | [] => [[]]
  | member :: rest =>
    if separates member then
      [] :: pieces separates rest
    else
      match pieces separates rest with
      | [] => [[member]]
      | first :: others => (member :: first) :: others

namespace Text

/-- A character is one unit below U+10000 and a surrogate pair from there on. -/
def ofChar (character : Char) : Text :=
  if character.toNat < 0x10000 then
    [character.toNat.toUInt16]
  else
    let offset := character.toNat - 0x10000
    [(0xD800 + offset / 0x400).toUInt16, (0xDC00 + offset % 0x400).toUInt16]

/-- The code units of a string. -/
def ofString (string : String) : Text :=
  string.toList.flatMap ofChar

/--
Put a unit in front of code points that are already joined: a high surrogate
absorbs the low surrogate that follows it.
-/
def consUnit
    (unit : CodeUnit)
    (following : List Nat) :
    List Nat :=
  match following with
  | [] => [unit.toNat]
  | next :: rest =>
    if unit.isHighSurrogate && 0xDC00 ≤ next && next ≤ 0xDFFF then
      (0x10000 + (unit.toNat - 0xD800) * 0x400 + (next - 0xDC00)) :: rest
    else
      unit.toNat :: next :: rest

/-- The code points of a text.  A surrogate without its partner stays as it is. -/
def codePoints (text : Text) : List Nat :=
  text.foldr consUnit []

@[simp]
theorem codePoints_nil : codePoints [] = [] := rfl

@[simp]
theorem codePoints_cons
    (unit : CodeUnit)
    (rest : Text) :
    codePoints (unit :: rest) = consUnit unit (codePoints rest) := rfl

/-- The units that write one code point. -/
def ofCodePoint (point : Nat) : Text :=
  if point < 0x10000 then
    [point.toUInt16]
  else
    [(0xD800 + (point - 0x10000) / 0x400).toUInt16,
      (0xDC00 + (point - 0x10000) % 0x400).toUInt16]

/-- A string of the text, `lone` deciding what a surrogate without partner becomes. -/
def toStringWith
    (lone : Nat → List Char)
    (text : Text) :
    String :=
  String.ofList <| text.codePoints.flatMap fun point =>
    if 0xD800 ≤ point ∧ point ≤ 0xDFFF then lone point else [Char.ofNat point]

/-- A string of the text, with U+FFFD for a surrogate without partner. -/
def toString (text : Text) : String :=
  text.toStringWith fun _ => ['\uFFFD']

/-- Whether `part` stands in the text as one consecutive piece. -/
def contains (text part : Text) : Bool :=
  match text with
  | [] => part.isEmpty
  | unit :: rest => part.isPrefixOf (unit :: rest) || contains rest part

/-- The texts one after the other, `separator` between two neighbours. -/
def join
    (separator : Text) :
    List Text → Text
  | [] => []
  | [last] => last
  | first :: second :: rest => first ++ separator ++ join separator (second :: rest)

end Text

/-- The text of a string literal. -/
def text (literal : String) : Text :=
  Text.ofString literal

end InfixCalc
