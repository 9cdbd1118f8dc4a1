import InfixCalc.Failure
import InfixCalc.Text.Blank
import InfixCalc.Token
import InfixCalc.Token.Literal

/-!
# Reading tokens

Two readers turn a text into tokens.  The whitespace reader wants blanks between
all tokens and takes every run between them as one; the boundary reader finds
the ends of tokens by itself.  Both stop at the first thing that is no token,
and the tokens before it are kept.
-/

namespace InfixCalc

/-- How the ends of tokens are found. -/
inductive LexerMode where
  | whitespace
  | boundary
  deriving DecidableEq, Repr, Inhabited

namespace LexerMode

/-- Both modes. -/
def all : List LexerMode := [whitespace, boundary]

/-- The name of a mode in options and flags. -/
def name : LexerMode → Text
  | whitespace => text "whitespace"
  | boundary => text "boundary"

/-- The mode of a name. -/
def ofName? (name : Text) : Option LexerMode :=
  all.find? fun mode => mode.name == name

end LexerMode

/-- The tokens read from a text, and what stopped the reading before its end. -/
structure Scan where
  tokens : List Token
  failure : Option Failure
  deriving DecidableEq, Repr

namespace Scan

/-- Nothing left to read. -/
def done : Scan := ⟨[], none⟩

/-- Stopped before any token. -/
def stopped (failure : Failure) : Scan := ⟨[], some failure⟩

/-- The same scan with one more token in front. -/
def cons
    (token : Token)
    (scan : Scan) :
    Scan :=
  ⟨token :: scan.tokens, scan.failure⟩

/-- What a reader that stops after `count` tokens sees: a failure only if it comes earlier. -/
def take
    (count : Nat)
    (scan : Scan) :
    Scan :=
  if count ≤ scan.tokens.length then ⟨scan.tokens.take count, none⟩ else scan

end Scan

namespace Lexer

/-- The maximal runs of units between blanks, each with its position. -/
def runs
    (position : Nat)
    (text : Text) :
    List (Nat × Text) :=
  match text with
  | [] => []
  | unit :: rest =>
    if unit.isBlank then
      runs (position + 1) rest
    else
      let tail := rest.takeWhile fun unit => !unit.isBlank
      (position, unit :: tail)
        :: runs (position + tail.length + 1) (rest.dropWhile fun unit => !unit.isBlank)
termination_by text.length
decreasing_by
  · exact Nat.lt_succ_self _
  · exact Nat.lt_succ_of_le (List.dropWhile_sublist _).length_le

/-- The lexeme that a whole run is, if it is one. -/
def lexemeOfRun? (run : Text) : Option Lexeme :=
  if Literal.isLiteral run then
    some (.number (Literal.value run) run)
  else
    match run with
    | [unit] => Lexeme.ofSymbol? unit
    | _ => none

/-- The tokens of runs, up to the first run that is no lexeme. -/
def ofRuns : List (Nat × Text) → Scan
  | [] => .done
  | (position, run) :: rest =>
    match lexemeOfRun? run with
    | some lexeme => (ofRuns rest).cons ⟨lexeme, position⟩
    | none => .stopped (.unrecognizedToken run position)

/-- The whitespace reader: every run is one token. -/
def whitespace (text : Text) : Scan :=
  ofRuns (runs 0 text)

/-- The boundary reader from a position on: a token is a symbol or the longest literal. -/
def boundaryFrom
    (position : Nat)
    (text : Text) :
    Scan :=
  match text with
  | [] => .done
  | unit :: rest =>
    if unit.isBlank then
      boundaryFrom (position + 1) rest
    else
      match Lexeme.ofSymbol? unit with
      | some lexeme => (boundaryFrom (position + 1) rest).cons ⟨lexeme, position⟩
      | none =>
        let literal := Literal.take (unit :: rest)
        let after := Literal.drop (unit :: rest)
        if _nonempty : literal = [] then
          .stopped (.unexpectedUnit unit position)
        else if after.head? = some 0x2E then
          .stopped (.unexpectedUnit 0x2E (position + literal.length))
        else
          (boundaryFrom (position + literal.length) after).cons
            ⟨.number (Literal.value literal) literal, position⟩
termination_by text.length
decreasing_by
  · exact Nat.lt_succ_self _
  · exact Nat.lt_succ_self _
  · exact Literal.length_drop_lt _nonempty

/-- The boundary reader. -/
def boundary (text : Text) : Scan :=
  boundaryFrom 0 text

end Lexer

/-- The tokens of a text under a mode. -/
def LexerMode.scan
    (mode : LexerMode)
    (text : Text) :
    Scan :=
  match mode with
  | whitespace => Lexer.whitespace text
  | boundary => Lexer.boundary text

end InfixCalc
