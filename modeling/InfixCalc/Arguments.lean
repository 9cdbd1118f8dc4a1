import InfixCalc.Evaluation
import InfixCalc.Settings

/-!
# Arguments given as JSON

Callers that pass options and operands unchecked pass them as JSON.  `null`
counts as not given.
-/

namespace InfixCalc

/-- The decimal that a value stands for: a text as it is read, a number by its shortest digits. -/
def Decimal.ofJson?
    (context : Context)
    (value : Json) :
    Except ArgumentError Decimal :=
  match value with
  | .number number => .ok (ofDouble number)
  | .string written => ofText? context written
  | other => .error (.numeral other.display)

/-- The context of settings. -/
def Context.ofSettings? (settings : Json) : Except ArgumentError Context :=
  ofGiven? (.ofSettings settings) (.ofSettings settings)

/-- The reader among settings: the whitespace reader unless the other one is named. -/
def LexerMode.ofSettings (settings : Json) : LexerMode :=
  match settings.get? (text "lexer") with
  | some (.string name) => (ofName? name).getD whitespace
  | _ => whitespace

/-- The options of settings. -/
def Options.ofSettings (settings : Json) : Options :=
  ⟨.ofSettings settings, Context.ofSettings? settings⟩

end InfixCalc
