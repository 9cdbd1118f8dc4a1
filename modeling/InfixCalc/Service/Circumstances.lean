import InfixCalc.Json.Reader

/-!
# What a call finds

A request comes at some time and takes some time, and what is said about a text that is no
JSON is said in the words of the system that the service runs on.  The service has no say in
any of this, so it comes with the call, and nothing is assumed of it.
-/

namespace InfixCalc

/--
The milliseconds between two readings of a clock, not too many for doubles to tell apart.
They are negative if the clock was put back in between.
-/
structure Span where
  milliseconds : Int
  exact : milliseconds.natAbs < Double.significandBound
  deriving DecidableEq, Repr

namespace Span

/-- No time at all. -/
def none : Span := ⟨0, by decide⟩

/-- The whole seconds, rounded down. -/
def seconds (span : Span) : Int :=
  span.milliseconds / 1000

end Span

/-- What a call finds. -/
structure Circumstances where
  /-- The time, as the audit writes it. -/
  time : Text
  /-- How long the request is being handled. -/
  duration : Span
  /-- How long the service has been running. -/
  running : Span
  /-- What is said about texts that are no JSON. -/
  complaint : Json.Complaint

/-- The epoch: the service has just started, takes no time, and has no words for wrong texts. -/
def Circumstances.atEpoch : Circumstances where
  time := text "1970-01-01T00:00:00.000Z"
  duration := .none
  running := .none
  complaint := fun _ => []

end InfixCalc
