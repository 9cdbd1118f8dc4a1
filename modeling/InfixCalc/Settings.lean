import InfixCalc.Evaluation
import InfixCalc.Inherent
import InfixCalc.Schema.Catalog

/-!
# Settings

The settings of the service are read once from the environment.  Every variable
has a default, each setting depends on its own variable alone, and one invalid
variable is enough for there to be no settings.
-/

namespace InfixCalc

/-- The ways in which the service is offered. -/
inductive ServiceMode where
  | mcp
  | http
  | both
  deriving DecidableEq, Repr, Inhabited

namespace ServiceMode

/-- All ways. -/
def all : List ServiceMode := [mcp, http, both]

/-- The name of a way. -/
def name : ServiceMode → Text
  | mcp => text "mcp"
  | http => text "http"
  | both => text "both"

/-- The way of a name. -/
def ofName? (name : Text) : Option ServiceMode :=
  all.find? fun mode => mode.name == name

end ServiceMode

/-- What a request may leave open. -/
structure Defaults where
  lexer : LexerMode
  precision : Precision
  rounding : Rounding
  deriving DecidableEq, Repr

/-- The settings of the service. -/
structure Settings where
  mode : ServiceMode
  port : Double
  defaults : Defaults
  audit : Bool
  deriving DecidableEq, Repr

/-- Variables and their values; of several values of one variable the last one counts. -/
abbrev Environment := List (Text × Text)

namespace Json

/-- The value of a name, `null` counting as no value. -/
def given?
    (value : Json)
    (name : Text) :
    Option Json :=
  match value.get? name with
  | some .null => none
  | other => other

/-- The reader that a member names, or another one in its place. -/
def lexerAt
    (value : Json)
    (name : Text)
    (substitute : LexerMode) :
    LexerMode :=
  (((value.get? name).bind text?).bind LexerMode.ofName?).getD substitute

/-- The rounding mode that a member names, or another one in its place. -/
def roundingAt
    (value : Json)
    (name : Text)
    (substitute : RoundingMode) :
    RoundingMode :=
  (((value.get? name).bind text?).bind RoundingMode.ofName?).getD substitute

/-- The number of a member, or another one in its place. -/
def numberAt
    (value : Json)
    (name : Text)
    (substitute : Double) :
    Double :=
  ((value.get? name).bind number?).getD substitute

end Json

/-- What settings give as the number of digits, twenty if they give nothing. -/
def Precision.ofSettings (settings : Json) : Precision :=
  match settings.given? (text "precision") with
  | none => standard
  | some (.number value) => number value
  | some given => other given.display

/--
What a name gives as the rounding mode.  The table of modes is a record, so that the names
that every record answers to give something that is no mode.  All other names give nothing
at all, and without a mode ties go toward zero.
-/
def Rounding.ofName (name : Text) : Rounding :=
  match RoundingMode.ofName? name, Inherent.shown? name with
  | some chosen, _ => mode chosen
  | none, some shown => other shown
  | none, none => mode .halfDown

/-- What settings give as the rounding mode. -/
def Rounding.ofSettings (settings : Json) : Rounding :=
  match settings.given? (text "rounding") with
  | none => standard
  | some given => ofName given.display

/-- What was given as the number of digits, as JSON. -/
def Precision.toJson : Precision → Json
  | number value => .number value
  | other shown => .string shown

/-- What was given as the rounding mode, as JSON. -/
def Rounding.toJson : Rounding → Json
  | mode chosen => .string chosen.name
  | other shown => .string shown

namespace Settings

/-- The settings of variables that the schema has accepted. -/
def ofData (data : Json) : Settings where
  mode := (((data.get? (text "MODE")).bind Json.text?).bind ServiceMode.ofName?).getD .both
  port := data.numberAt (text "PORT") (.ofNat 3001)
  defaults := {
    lexer := data.lexerAt (text "STACKCALC_LEXER") .whitespace
    precision :=
      .number (data.numberAt (text "STACKCALC_PRECISION") (.ofNat Context.standardPrecision))
    rounding := .mode (data.roundingAt (text "STACKCALC_ROUNDING") .standard) }
  audit := (data.get? (text "STACKCALC_AUDIT")).bind Json.text? == some (text "1")

/-- The settings of variables given as JSON, or what is wrong with them. -/
def ofJson? (environment : Json) : Except (List Issue) Settings :=
  (Schema.environment.read (some environment)).map fun data => ofData (data.getD .null)

/-- The settings of an environment, or what is wrong with it. -/
def load? (environment : Environment) : Except (List Issue) Settings :=
  ofJson? (.object (environment.map fun (name, value) => (name, .string value)))

/-- The settings of the empty environment. -/
def standard : Settings where
  mode := .both
  port := .ofNat 3001
  defaults := {
    lexer := .whitespace
    precision := .standard
    rounding := .standard }
  audit := true

/-- Settings that were written down as JSON, unchecked; a default left out has its usual value. -/
def ofConfigJson (config : Json) : Settings where
  mode := (((config.get? (text "mode")).bind Json.text?).bind ServiceMode.ofName?).getD .both
  port := config.numberAt (text "port") .nan
  defaults :=
    let defaults := (config.get? (text "defaults")).getD .null
    { lexer := defaults.lexerAt (text "lexer") .whitespace
      precision := .ofSettings defaults
      rounding := .ofSettings defaults }
  audit := ((config.get? (text "audit")).map Json.isTruthy).getD false

/-- Settings as JSON. -/
def toJson (settings : Settings) : Json :=
  .object [
    (text "mode", .string settings.mode.name),
    (text "port", .number settings.port),
    (text "defaults", .object [
      (text "lexer", .string settings.defaults.lexer.name),
      (text "precision", settings.defaults.precision.toJson),
      (text "rounding", settings.defaults.rounding.toJson)]),
    (text "audit", .bool settings.audit)]

end Settings

end InfixCalc
