import InfixCalc.Operator
import InfixCalc.Decimal.Basic

/-!
# Tokens

A token is a lexeme and the place of its first unit in the text it was read
from.
-/

namespace InfixCalc

/-- What a token stands for.  A number keeps the text that it was written as. -/
inductive Lexeme where
  | number (value : Decimal) (written : Text)
  | operator (symbol : Operator)
  | openGroup
  | closeGroup
  deriving DecidableEq, Repr

namespace Lexeme

/-- The text of a lexeme as it stood in the expression. -/
def toText : Lexeme → Text
  | number _ written => written
  | operator symbol => symbol.toText
  | openGroup => text "("
  | closeGroup => text ")"

/-- The lexeme of a single unit that is an operator or a parenthesis. -/
def ofSymbol? (unit : CodeUnit) : Option Lexeme :=
  if unit == 0x28 then some openGroup
  else if unit == 0x29 then some closeGroup
  else (Operator.ofSymbol? unit).map operator

end Lexeme

/-- A lexeme and the position of its first unit. -/
structure Token where
  lexeme : Lexeme
  position : Nat
  deriving DecidableEq, Repr

namespace Token

/-- The text of a token as it stood in the expression. -/
def toText (token : Token) : Text :=
  token.lexeme.toText

end Token

end InfixCalc
