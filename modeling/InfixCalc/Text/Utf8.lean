import InfixCalc.Text

/-!
# UTF-8

Texts as bytes and back.  Encoding writes U+FFFD for a surrogate without its
partner.  Decoding never fails: every maximal piece that could have begun a
character but does not complete one becomes a single U+FFFD, and a byte that
can begin nothing becomes one of its own.

The decoder is a machine that takes one byte at a time, so it does not matter
in which portions the bytes arrive.
-/

namespace InfixCalc.Text.Utf8

/-- The bytes of one code point; a surrogate is written as U+FFFD. -/
def encodePoint (point : Nat) : List UInt8 :=
  if point < 0x80 then
    [point.toUInt8]
  else if point < 0x800 then
    [(0xC0 + point / 0x40).toUInt8, (0x80 + point % 0x40).toUInt8]
  else if 0xD800 ≤ point ∧ point ≤ 0xDFFF then
    [0xEF, 0xBF, 0xBD]
  else if point < 0x10000 then
    [(0xE0 + point / 0x1000).toUInt8, (0x80 + point / 0x40 % 0x40).toUInt8,
      (0x80 + point % 0x40).toUInt8]
  else
    [(0xF0 + point / 0x40000).toUInt8, (0x80 + point / 0x1000 % 0x40).toUInt8,
      (0x80 + point / 0x40 % 0x40).toUInt8, (0x80 + point % 0x40).toUInt8]

/-- The bytes of a text. -/
def encode (text : Text) : List UInt8 :=
  text.codePoints.flatMap encodePoint

/--
Where the decoder stands: between characters, or inside one that still owes
`owed + 1` bytes, the next of them between `low` and `high`, and whose bits so
far are `value`.
-/
inductive State where
  | between
  | inside (owed : Nat) (low high : UInt8) (value : Nat)
  deriving DecidableEq, Repr

/-- What stands in the text for bytes that encode nothing. -/
def replacement : CodeUnit := 0xFFFD

/-- The effect of a byte read between two characters: the units it completes and the next state. -/
def begin (byte : UInt8) : Text × State :=
  if byte ≤ 0x7F then ([byte.toUInt16], .between)
  else if 0xC2 ≤ byte && byte ≤ 0xDF then ([], .inside 0 0x80 0xBF (byte.toNat - 0xC0))
  else if byte == 0xE0 then ([], .inside 1 0xA0 0xBF 0)
  else if byte == 0xED then ([], .inside 1 0x80 0x9F 0xD)
  else if 0xE1 ≤ byte && byte ≤ 0xEF then ([], .inside 1 0x80 0xBF (byte.toNat - 0xE0))
  else if byte == 0xF0 then ([], .inside 2 0x90 0xBF 0)
  else if 0xF1 ≤ byte && byte ≤ 0xF3 then ([], .inside 2 0x80 0xBF (byte.toNat - 0xF0))
  else if byte == 0xF4 then ([], .inside 2 0x80 0x8F 4)
  else ([replacement], .between)

/-- The effect of one byte: the units it completes and the next state. -/
def step (state : State) (byte : UInt8) : Text × State :=
  match state with
  | .between => begin byte
  | .inside owed low high value =>
    if low ≤ byte && byte ≤ high then
      let joined := value * 0x40 + (byte.toNat - 0x80)
      match owed with
      | 0 => (ofCodePoint joined, .between)
      | left + 1 => ([], .inside left 0x80 0xBF joined)
    else
      let (units, next) := begin byte
      (replacement :: units, next)

/-- What a character that the end of the bytes cuts off leaves in the text. -/
def rest (state : State) : Text :=
  match state with
  | .between => []
  | .inside .. => [replacement]

/-- The machine after some bytes, the units it has completed in reverse. -/
def run
    (start : Text × State)
    (bytes : List UInt8) :
    Text × State :=
  bytes.foldl
    (fun machine byte =>
      let (units, next) := step machine.2 byte
      (units.reverse ++ machine.1, next))
    start

/-- The text that some bytes encode. -/
def decode (bytes : List UInt8) : Text :=
  let (reversed, state) := run ([], .between) bytes
  reversed.reverse ++ rest state

end InfixCalc.Text.Utf8
