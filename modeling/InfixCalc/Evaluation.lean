import InfixCalc.Decimal.Reader
import InfixCalc.Trace

/-!
# Evaluating expressions

A text is read to its end before anything is computed, so a lexical failure
comes before every other one.  The number of digits that is asked for is checked
between the two: a text that cannot be read fails whatever it is.
-/

namespace InfixCalc

/-- What came of an expression, and the steps that led there. -/
structure Explanation where
  result : Except Failure Decimal
  steps : List TraceStep

/-- The value of an expression, or why it has none. -/
def evaluate
    (context : Context)
    (mode : LexerMode)
    (expression : Text) :
    Except Failure Decimal :=
  let scan := mode.scan expression
  match scan.failure with
  | some failure => .error failure
  | none => (Machine.run context scan.tokens).outcome

/-- The value of an expression with every step; none where the text cannot be read. -/
def explain
    (context : Context)
    (mode : LexerMode)
    (expression : Text) :
    Explanation :=
  let scan := mode.scan expression
  match scan.failure with
  | some failure => ⟨.error failure, []⟩
  | none =>
    let reaction := Machine.run context scan.tokens
    ⟨reaction.outcome, reaction.steps.map .ofStep⟩

/-- What is given as a number of digits: a number, or something of which only the text matters. -/
inductive Precision where
  | number (value : Double)
  | other (shown : Text)
  deriving DecidableEq, Repr

namespace Precision

/-- Twenty digits. -/
def standard : Precision := number (.ofNat Context.standardPrecision)

/-- What was given, as a text. -/
def toText : Precision → Text
  | number value => value.toText
  | other shown => shown

/-- The number of digits; only a number can be one. -/
def digits? : Precision → Option Nat
  | number value => value.toNat?
  | other _ => none

end Precision

/-- A context with the number of digits that is asked for, a whole one from 1 to 1000000000. -/
def Context.ofPrecision?
    (precision : Precision)
    (mode : RoundingMode) :
    Except ArgumentError Context :=
  match precision.digits? with
  | some digits =>
    if bounds : 0 < digits ∧ digits ≤ 1000000000 then
      .ok ⟨digits, mode, bounds.1, bounds.2⟩
    else
      .error (.precision precision.toText)
  | none => .error (.precision precision.toText)

/-- What is given as a rounding mode: a mode, or something that is none and shows as a text. -/
inductive Rounding where
  | mode (chosen : RoundingMode)
  | other (shown : Text)
  deriving DecidableEq, Repr

/-- Halves go to the even neighbour. -/
def Rounding.standard : Rounding := mode .standard

/-- A context with what is given for it.  The number of digits is looked at first. -/
def Context.ofGiven?
    (precision : Precision)
    (rounding : Rounding) :
    Except ArgumentError Context :=
  match rounding with
  | .mode mode => ofPrecision? precision mode
  | .other shown => (ofPrecision? precision .standard).bind fun _ => .error (.rounding shown)

/-- How an expression is to be evaluated; the context may have been asked for in vain. -/
structure Options where
  lexer : LexerMode
  context : Except ArgumentError Context

namespace Options

/-- Evaluate under options.  What is wrong with the options shows only if the text can be read. -/
def evaluate
    (options : Options)
    (expression : Text) :
    Except ArgumentError (Except Failure Decimal) :=
  match options.context with
  | .ok context => .ok (InfixCalc.evaluate context options.lexer expression)
  | .error problem =>
    match (options.lexer.scan expression).failure with
    | some failure => .ok (.error failure)
    | none => .error problem

/-- Explain under options.  What is wrong with the options shows only if the text can be read. -/
def explain
    (options : Options)
    (expression : Text) :
    Except ArgumentError Explanation :=
  match options.context with
  | .ok context => .ok (InfixCalc.explain context options.lexer expression)
  | .error problem =>
    match (options.lexer.scan expression).failure with
    | some failure => .ok ⟨.error failure, []⟩
    | none => .error problem

end Options

end InfixCalc
