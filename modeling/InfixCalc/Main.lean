import InfixCalc.Command.Run
import InfixCalc.Text.Utf8

/-!
# The program

Carries out the script of the command with the standard streams and the files of
the system.
-/

namespace InfixCalc.Command

/-- Why a file cannot be read, in the words of the system. -/
def readFailure (name : String) : IO.Error → String
  | .noFileOrDirectory .. => s!"ENOENT: no such file or directory, open '{name}'"
  | problem => toString problem

/-- The content of a file, or why it cannot be read. -/
def readContent (name : Text) : IO (Except Text Text) := do
  try
    let content ← IO.FS.readBinFile name.toString
    return .ok (Text.Utf8.decode content.toList)
  catch problem =>
    return .error (text (readFailure name.toString problem))

/-- Carry out a script. -/
def Script.perform : Script → IO UInt32
  | exit code => return code.number.toUInt32
  | out line next => do
    IO.println line.toString
    next.perform
  | err line next => do
    IO.eprintln line.toString
    next.perform
  | readLine next => do
    let input ← (← IO.getStdin).getLine
    (next (firstLine? (text input))).perform
  | readFile name next => do
    let content ← readContent name
    (next content).perform

/-- What is said about a file that is no JSON. -/
def complaint : Json.Complaint := fun _ => text "not valid JSON"

end InfixCalc.Command

/-- The entry point. -/
def main (arguments : List String) : IO UInt32 :=
  (InfixCalc.Command.run InfixCalc.Command.complaint (arguments.map InfixCalc.text)).perform
