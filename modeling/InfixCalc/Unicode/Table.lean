import InfixCalc.Text.Numeral

/-!
# Tables of code points

Properties of code points come as tables, written as lines of entries with a
blank between two of them.  A span is a hexadecimal number, or two with a hyphen
between them for the first and the last of consecutive code points.  An entry is
a span, a colon, and the code points that it leads to with a plus sign between
two of them.

All tables are those of version 15.1 of the standard.
-/

namespace InfixCalc.Unicode

/-- Consecutive code points. -/
structure Span where
  first : Nat
  last : Nat
  deriving DecidableEq, Repr

namespace Span

/-- Whether a code point is in the span. -/
def contains
    (span : Span)
    (point : Nat) :
    Bool :=
  span.first ≤ point && point ≤ span.last

/-- The span that a text writes. -/
def ofText (written : Text) : Span :=
  let numbers := (pieces (· == 0x2D) written).filterMap (Text.readDigits? 16)
  ⟨numbers.head?.getD 0, numbers.getLast?.getD 0⟩

end Span

/-- Code points, and the ones that they lead to. -/
structure Entry where
  span : Span
  points : List Nat
  deriving DecidableEq, Repr

namespace Entry

/-- The entry that a text writes. -/
def ofText (written : Text) : Entry :=
  let parts := pieces (· == 0x3A) written
  ⟨.ofText (parts.head?.getD []),
    (pieces (· == 0x2B) (parts.getLast?.getD [])).filterMap (Text.readDigits? 16)⟩

end Entry

/-- The parts of lines between blanks. -/
def parts (lines : List String) : List Text :=
  lines.flatMap fun line => pieces (· == 0x20) (text line)

/-- The spans that lines hold. -/
def spans (lines : List String) : List Span :=
  (parts lines).map .ofText

/-- The entries that lines hold. -/
def entries (lines : List String) : List Entry :=
  (parts lines).map .ofText

/-- Whether a code point is in one of some spans. -/
def isIn
    (table : List Span)
    (point : Nat) :
    Bool :=
  table.any fun span => span.contains point

/-- The entry of a code point. -/
def entryOf?
    (table : List Entry)
    (point : Nat) :
    Option Entry :=
  table.find? fun entry => entry.span.contains point

end InfixCalc.Unicode
