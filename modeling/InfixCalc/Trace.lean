import InfixCalc.Decimal.Printer
import InfixCalc.Machine

/-!
# Written traces

A trace shows every step of the machine: what was done and both stacks
afterwards, bottom first, with all decimals in plain notation.
-/

namespace InfixCalc

/-- Both stacks as texts, bottom first. -/
structure Snapshot where
  operands : List Text
  operators : List Text
  deriving DecidableEq, Repr

/-- Both stacks of a machine as texts. -/
def Machine.snapshot (machine : Machine) : Snapshot :=
  ⟨machine.operands.toList.map Decimal.toText, machine.pending.toList.map Pending.toText⟩

/-- One written step. -/
inductive TraceStep where
  | shift (token : Text) (position : Nat) (after : Snapshot)
  | reduce (symbol : Text) (position : Nat) (left right result : Text) (after : Snapshot)
  deriving DecidableEq, Repr

namespace TraceStep

/-- The written form of a step. -/
def ofStep (step : Step) : TraceStep :=
  match step.action with
  | .shift token => shift token.toText token.position step.after.snapshot
  | .reduce symbol position left right result =>
    reduce symbol.toText position left.toText right.toText result.toText step.after.snapshot

/-- Both stacks after the step. -/
def after : TraceStep → Snapshot
  | shift _ _ after => after
  | reduce _ _ _ _ _ after => after

/-- The position of the token or of the operator. -/
def position : TraceStep → Nat
  | shift _ position _ => position
  | reduce _ position _ _ _ _ => position

/-- Both stacks in brackets. -/
def stacksText (snapshot : Snapshot) : Text :=
  text "[" ++ Text.join (text " ") snapshot.operands
    ++ text "] [" ++ Text.join (text " ") snapshot.operators ++ text "]"

/-- A step as one line. -/
def toLine : TraceStep → Text
  | shift token _ after => text "shift " ++ token ++ text " -> " ++ stacksText after
  | reduce symbol _ left right result after =>
    text "reduce " ++ left ++ text " " ++ symbol ++ text " " ++ right ++ text " = " ++ result
      ++ text " -> " ++ stacksText after

end TraceStep

end InfixCalc
