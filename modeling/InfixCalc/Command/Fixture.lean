import InfixCalc.Json.Printer
import InfixCalc.Json.Reader
import InfixCalc.Schema.Catalog
import InfixCalc.Settings

/-!
# Fixtures

A fixture is an expression with the outcome that it is to have: the text of a
value, or the code of a failure.
-/

namespace InfixCalc

/-- How an expression is to be evaluated, with a context that is known to be valid. -/
structure CheckedOptions where
  lexer : LexerMode
  context : Context

namespace CheckedOptions

/-- Options that the schema has accepted; what they leave open has its usual value. -/
def ofData (data : Json) : CheckedOptions where
  lexer := data.lexerAt (text "lexer") .whitespace
  context :=
    let mode := data.roundingAt (text "rounding") .standard
    match Context.ofPrecision? (.ofSettings data) mode with
    | .ok context => context
    | .error _ => { Context.standard with mode }

/-- The result of an expression under checked options. -/
def evaluate
    (options : CheckedOptions)
    (expression : Text) :
    Except Failure Decimal :=
  InfixCalc.evaluate options.context options.lexer expression

end CheckedOptions

/-- An expression and the outcome that it is to have. -/
structure Fixture where
  name : Text
  expression : Text
  value : Option Text
  error : Option Text
  options : CheckedOptions

namespace Fixture

/-- The fixture of data that the schema has accepted. -/
def ofData (data : Json) : Fixture where
  name := ((data.get? (text "name")).bind Json.text?).getD []
  expression := ((data.get? (text "expr")).bind Json.text?).getD []
  value := (data.get? (text "value")).bind Json.text?
  error := (data.get? (text "error")).bind Json.text?
  options := .ofData ((data.get? (text "options")).getD .null)

/-- The outcome that is wanted: a failure rather than a value, and nothing if neither is given. -/
def expected (fixture : Fixture) : Text :=
  (fixture.error.or fixture.value).getD []

/-- The text of a value, or the code of a failure. -/
def outcomeText : Except Failure Decimal → Text
  | .ok value => value.toText
  | .error failure => failure.code.name

/-- The outcome that there is. -/
def actual (fixture : Fixture) : Text :=
  outcomeText (fixture.options.evaluate fixture.expression)

/-- Whether the outcome is the one that is wanted. -/
def passes (fixture : Fixture) : Bool :=
  fixture.actual == fixture.expected

/-- The lines that report on a fixture. -/
def report (fixture : Fixture) : List Text :=
  if fixture.passes then
    [fixture.name ++ text ": OK"]
  else
    [fixture.name ++ text ": FAIL",
      text " expected: " ++ fixture.expected,
      text "      got: " ++ fixture.actual]

/-- The fixtures of a file's text, or the message that says what is wrong with it. -/
def load?
    (complaint : Json.Complaint)
    (written : Text) :
    Except Text (List Fixture) :=
  match Json.parse complaint written with
  | .error said => .error said
  | .ok value =>
    match Schema.fixtures.read (some value) with
    | .ok data => .ok (((data.bind Json.items?).getD []).map ofData)
    | .error issues => .error (Json.array (issues.map Issue.toJson)).pretty

/-- The fixtures whose name contains a text; without a text, or with an empty one, all of them. -/
def select
    (only : Option Text)
    (fixtures : List Fixture) :
    List Fixture :=
  match only with
  | none => fixtures
  | some part =>
    if part.isEmpty then fixtures else fixtures.filter fun fixture => fixture.name.contains part

end Fixture

end InfixCalc
