import InfixCalc.Evaluation
import InfixCalc.Json.Basic

/-!
# Outcomes

An outcome is a value or a refusal: a code, and what else is known about it.
Callers that know nothing of expressions see the result of one as an outcome.
-/

namespace InfixCalc

/-- Why there is no value. -/
structure Refusal where
  code : Text
  message : Option Text
  details : Option Json

/-- A value or a refusal. -/
inductive Outcome (α : Type) where
  | value (held : α)
  | refused (refusal : Refusal)

namespace Outcome

variable {α β : Type}

/-- Whether there is a value. -/
def isValue : Outcome α → Bool
  | value _ => true
  | refused _ => false

/-- Whether there is none. -/
def isRefused : Outcome α → Bool
  | value _ => false
  | refused _ => true

/-- Change the value; a refusal stays as it is. -/
def map (change : α → β) : Outcome α → Outcome β
  | value held => .value (change held)
  | refused refusal => .refused refusal

/-- The value, or another one in its place. -/
def getD (outcome : Outcome α) (substitute : α) : α :=
  match outcome with
  | value held => held
  | refused _ => substitute

/-- What one of two functions makes of the outcome. -/
def fold
    (onValue : α → β)
    (onRefusal : Refusal → β) :
    Outcome α → β
  | value held => onValue held
  | refused refusal => onRefusal refusal

/-- The result of an expression as an outcome; the details hold the position, if there is one. -/
def ofResult : Except Failure Decimal → Outcome Decimal
  | .ok result => value result
  | .error failure =>
    refused {
      code := failure.code.name
      message := some failure.message
      details := some (.object
        ((failure.position?.map fun position => (text "pos", Json.nat position)).toList)) }

end Outcome

end InfixCalc
