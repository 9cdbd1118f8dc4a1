import InfixCalc.Text

/-!
# Scripts

A script is what a command does to the world, one thing after the other: lines
written to either stream, a line read from standard input, a file read.  It ends
with an exit code.  Playing a script against given surroundings shows all that it
wrote and all that it asked for.
-/

namespace InfixCalc.Command

/-- How a command ended. -/
inductive ExitCode where
  /-- All went well. -/
  | success
  /-- An expression had no value, or a fixture another outcome. -/
  | failure
  /-- The command was not called as it should be. -/
  | misuse
  deriving DecidableEq, Repr

/-- The number of an exit code. -/
def ExitCode.number : ExitCode → Nat
  | success => 0
  | failure => 1
  | misuse => 2

/-- What a command does. -/
inductive Script where
  | exit (code : ExitCode)
  | out (line : Text) (next : Script)
  | err (line : Text) (next : Script)
  /-- Read a line of standard input; there may be none. -/
  | readLine (next : Option Text → Script)
  /-- Read a file, or learn why it cannot be read. -/
  | readFile (name : Text) (next : Except Text Text → Script)

/-- What a command finds. -/
structure Surroundings where
  line : Option Text
  file : Text → Except Text Text

/-- What a command left behind. -/
structure Transcript where
  out : List Text
  err : List Text
  code : ExitCode
  linesRead : Nat
  filesRead : List Text
  deriving DecidableEq, Repr

namespace Script

/-- Write lines to standard output, then go on. -/
def outs
    (lines : List Text)
    (next : Script) :
    Script :=
  lines.foldr out next

/-- Write lines to standard error, then go on. -/
def errs
    (lines : List Text)
    (next : Script) :
    Script :=
  lines.foldr err next

/-- Play a script in surroundings. -/
def play (surroundings : Surroundings) : Script → Transcript
  | exit code => ⟨[], [], code, 0, []⟩
  | out line next =>
    let rest := next.play surroundings
    { rest with out := line :: rest.out }
  | err line next =>
    let rest := next.play surroundings
    { rest with err := line :: rest.err }
  | readLine next =>
    let rest := (next surroundings.line).play surroundings
    { rest with linesRead := rest.linesRead + 1 }
  | readFile name next =>
    let rest := (next (surroundings.file name)).play surroundings
    { rest with filesRead := name :: rest.filesRead }

end Script

/-- Whether a line ends at the unit. -/
def isLineEnd (unit : CodeUnit) : Bool :=
  unit == 0x0A || unit == 0x0D || unit == 0x2028 || unit == 0x2029

/-- The first line of an input, up to a line end; an empty input has none. -/
def firstLine? (input : Text) : Option Text :=
  if input.isEmpty then none else some (input.takeWhile fun unit => !isLineEnd unit)

end InfixCalc.Command
