import InfixCalc.Command.Arguments
import InfixCalc.Command.Fixture
import InfixCalc.Command.Script

/-!
# The command

`eval` prints the value of an expression, `explain` its steps and its value, and
`test` compares the expressions of a file with the outcomes that are wanted.
Flags are checked before the command is looked at, so a wrong flag is reported
whatever the command.
-/

namespace InfixCalc.Command

/-- How the command is called. -/
def usage : List Text := [
  text "stackcalc <command> [args] [flags]",
  text "commands: eval [expr] | explain <expr> | test <fixtures.json>",
  text "flags: --lexer whitespace|boundary --precision N --rounding MODE --json --only NAME"]

/-- Say what is wrong with the call. -/
def misused (message : Text) : Script :=
  .err (text "error: " ++ message) (.exit .misuse)

/-- The message about flags that are not known. -/
def unknownFlagsMessage (flags : List Text) : Text :=
  text "unknown flag" ++ (if flags.length > 1 then text "s" else []) ++ text ": "
    ++ Text.join (text ", ") flags

/-- A result as one line of JSON. -/
def resultJson : Except Failure Decimal → Json
  | .ok value => .object [(text "value", .string value.toText)]
  | .error failure =>
    .object [(text "error", .object [
      (text "code", .string failure.code.name),
      (text "message", .string failure.message)])]

/-- Print a result and exit. -/
def report
    (json : Bool)
    (result : Except Failure Decimal) :
    Script :=
  match result with
  | .ok value =>
    .out (if json then (resultJson result).compact else value.toText) (.exit .success)
  | .error failure =>
    if json then
      .out (resultJson result).compact (.exit .failure)
    else
      .err (text "error: " ++ failure.code.name ++ text ": " ++ failure.message) (.exit .failure)

/-- The values of flags as the schema reads them. -/
def flagData (flags : FlagValues) : Json :=
  let member (flag : Flag) (name : String) :=
    ((flags.get? flag).map fun value => (text name, Json.string value)).toList
  .object (member .lexer "lexer" ++ member .precision "precision" ++ member .rounding "rounding")

/-- The options that flags ask for, or what is wrong with the flags. -/
def options? (flags : FlagValues) : Except (List Issue) CheckedOptions :=
  (Schema.flags.read (some (flagData flags))).map fun data => .ofData (data.getD .null)

/-- Evaluate an expression, which may be missing. -/
def evaluateGiven
    (options : CheckedOptions)
    (json : Bool)
    (expression : Option Text) :
    Script :=
  match expression with
  | none => misused (text "no expression given")
  | some expression =>
    if expression.isBlank then misused (text "no expression given")
    else report json (options.evaluate expression)

/-- Evaluate the positional arguments, or the first line of standard input if there are none. -/
def evalCommand
    (options : CheckedOptions)
    (arguments : Arguments) :
    Script :=
  let json := (arguments.flags.get? .json).isSome
  if arguments.positional.isEmpty then
    .readLine (evaluateGiven options json)
  else
    evaluateGiven options json (some (Text.join (text " ") arguments.positional))

/-- Explain the positional arguments. -/
def explainCommand
    (options : CheckedOptions)
    (arguments : Arguments) :
    Script :=
  if arguments.positional.isEmpty then
    misused (text "no expression given")
  else
    let explanation :=
      explain options.context options.lexer (Text.join (text " ") arguments.positional)
    .outs (explanation.steps.map TraceStep.toLine) (report false explanation.result)

/-- Report on fixtures and exit. -/
def testFixtures (fixtures : List Fixture) : Script :=
  .outs (fixtures.flatMap Fixture.report)
    (.exit (if fixtures.all Fixture.passes then .success else .failure))

/-- The message about a file whose fixtures cannot be had. -/
def loadMessage (name message : Text) : Text :=
  text "cannot load " ++ name ++ text ": " ++ message

/-- Test the fixtures of a file. -/
def testCommand
    (complaint : Json.Complaint)
    (arguments : Arguments) :
    Script :=
  match arguments.positional.head? with
  | none => misused (text "no fixture file given")
  | some name =>
    if name.isEmpty then
      misused (text "no fixture file given")
    else
      .readFile name fun content =>
        match content.bind (Fixture.load? complaint) with
        | .error message => misused (loadMessage name message)
        | .ok fixtures => testFixtures (Fixture.select (arguments.flags.get? .only) fixtures)

/-- Carry out a command whose flags are in order. -/
def dispatch
    (complaint : Json.Complaint)
    (command : Text)
    (options : CheckedOptions)
    (arguments : Arguments) :
    Script :=
  if command == text "eval" then evalCommand options arguments
  else if command == text "explain" then explainCommand options arguments
  else if command == text "test" then testCommand complaint arguments
  else .errs usage (.exit .misuse)

/-- What the command does for a list of arguments. -/
def run
    (complaint : Json.Complaint)
    (arguments : List Text) :
    Script :=
  match arguments with
  | [] => .outs usage (.exit .success)
  | command :: rest =>
    if command.isEmpty then
      .outs usage (.exit .success)
    else
      let parsed := Arguments.parse rest
      if !parsed.unknown.isEmpty then
        misused (unknownFlagsMessage parsed.unknown)
      else
        match options? parsed.flags with
        | .error issues => misused (text "invalid flags: " ++ Issue.summary [] issues)
        | .ok options => dispatch complaint command options parsed

end InfixCalc.Command
