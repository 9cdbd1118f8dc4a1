import InfixCalc.Double.Printer
import InfixCalc.Text.Utf8

/-!
# Request bodies

A body arrives in portions.  Reading gives up at the first portion that brings
the total over the limit, and fails if the portions end in a broken stream;
otherwise the body is the text of all bytes together, so the way they were cut
into portions does not matter.
-/

namespace InfixCalc

/-- The portions of a body, and whether the stream breaks after them. -/
structure BodyStream where
  portions : List (List UInt8)
  broken : Bool
  deriving DecidableEq, Repr

/-- Why there is no body. -/
inductive BodyError where
  | tooLarge (limit : Double)
  | broken
  deriving DecidableEq, Repr

namespace BodyError

/-- The message for a body that is too large. -/
def tooLargeMessage (limit : Double) : Text :=
  text "Request body exceeds " ++ limit.toText ++ text " bytes"

end BodyError

namespace Body

/-- The most bytes that the service takes. -/
def greatestSize : Nat := 65536

/-- Whether some portion brings the total, `size` so far, over the limit. -/
def exceeds
    (limit : Double)
    (size : Nat) :
    List (List UInt8) → Bool
  | [] => false
  | portion :: rest =>
    limit.ltNat (size + portion.length) || exceeds limit (size + portion.length) rest

/-- Read a body of at most `limit` bytes. -/
def read
    (limit : Double)
    (stream : BodyStream) :
    Except BodyError Text :=
  if exceeds limit 0 stream.portions then .error (.tooLarge limit)
  else if stream.broken then .error .broken
  else .ok (Text.Utf8.decode stream.portions.flatten)

end Body

end InfixCalc
