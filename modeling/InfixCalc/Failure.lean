import InfixCalc.Operator

/-!
# Failures of an evaluation

Each way in which an expression can fail to have a value, with the position that
is to blame where there is one.  The wording of the messages is in one place.
-/

namespace InfixCalc

/-- The kinds of failure that callers tell apart. -/
inductive FailureCode where
  | lexical
  | unbalanced
  | underflow
  | divisionByZero
  | leftover
  deriving DecidableEq, Repr

namespace FailureCode

/-- All codes, in the order in which they are listed. -/
def all : List FailureCode :=
  [lexical, unbalanced, underflow, divisionByZero, leftover]

/-- The name of a code. -/
def name : FailureCode → Text
  | lexical => text "LEX_ERROR"
  | unbalanced => text "UNBALANCED_PARENS"
  | underflow => text "STACK_UNDERFLOW"
  | divisionByZero => text "DIVISION_BY_ZERO"
  | leftover => text "TRAILING_GARBAGE"

end FailureCode

/-- Why an expression has no value. -/
inductive Failure where
  /-- A run between blanks that is neither a literal nor a symbol. -/
  | unrecognizedToken (run : Text) (position : Nat)
  /-- A unit at which no token begins, or a point right after a literal. -/
  | unexpectedUnit (unit : CodeUnit) (position : Nat)
  /-- A closing parenthesis that nothing opened. -/
  | unmatchedClose (position : Nat)
  /-- An opening parenthesis that nothing closed. -/
  | unclosedOpen (position : Nat)
  /-- A pair of parentheses around nothing. -/
  | emptyGroup (position : Nat)
  /-- An operator with nothing on its left. -/
  | missingLeft (operator : Operator) (position : Nat)
  /-- An operator with nothing on its right. -/
  | missingRight (operator : Operator) (position : Nat)
  /-- An operator whose operands are not both there although its bounds say so. -/
  | notEnoughOperands (operator : Operator) (position : Nat)
  /-- A division whose right operand is zero. -/
  | divisionByZero (position : Nat)
  /-- Several values side by side at the end. -/
  | leftover (count : Nat)
  /-- No value at the end. -/
  | emptyExpression
  deriving DecidableEq, Repr

namespace Failure

/-- The kind of a failure. -/
def code : Failure → FailureCode
  | unrecognizedToken .. => .lexical
  | unexpectedUnit .. => .lexical
  | unmatchedClose _ => .unbalanced
  | unclosedOpen _ => .unbalanced
  | emptyGroup _ => .underflow
  | missingLeft .. => .underflow
  | missingRight .. => .underflow
  | notEnoughOperands .. => .underflow
  | divisionByZero _ => .divisionByZero
  | leftover _ => .leftover
  | emptyExpression => .underflow

/-- The position that is to blame.  What is wrong with the whole expression has none. -/
def position? : Failure → Option Nat
  | unrecognizedToken _ position => some position
  | unexpectedUnit _ position => some position
  | unmatchedClose position => some position
  | unclosedOpen position => some position
  | emptyGroup position => some position
  | missingLeft _ position => some position
  | missingRight _ position => some position
  | notEnoughOperands _ position => some position
  | divisionByZero position => some position
  | leftover _ => none
  | emptyExpression => none

/-- A description that ends in the position it is about. -/
def located
    (description : Text)
    (position : Nat) :
    Text :=
  description ++ text " at position " ++ Text.numeral position

/-- The message of a failure. -/
def message : Failure → Text
  | unrecognizedToken run position =>
    located (text "unrecognized token '" ++ run ++ text "'") position
  | unexpectedUnit unit position =>
    located (text "unexpected character '" ++ [unit] ++ text "'") position
  | unmatchedClose position => located (text "unmatched ')'") position
  | unclosedOpen position => located (text "unclosed '('") position
  | emptyGroup position => located (text "empty group") position
  | missingLeft operator position =>
    located (text "operator '" ++ operator.toText ++ text "'") position
      ++ text " is missing its left operand"
  | missingRight operator position =>
    located (text "operator '" ++ operator.toText ++ text "'") position
      ++ text " is missing its right operand"
  | notEnoughOperands operator position =>
    located (text "not enough operands for '" ++ operator.toText ++ text "'") position
  | divisionByZero position => located (text "division by zero") position
  | leftover count => Text.numeral count ++ text " values left on the operand stack"
  | emptyExpression => text "empty expression"

end Failure

end InfixCalc
