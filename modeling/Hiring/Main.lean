import Hiring.CommandLine.Run

/-!
# The program

Reads what a command needs, lets it run, and prints what comes of it.
-/

namespace Hiring.CommandLine

/-- The variables that settings are made of. -/
def settingNames : List String :=
  ["APP_ENV", "APP_HOST", "APP_PORT", "APP_LOG_LEVEL", "SCREENING_AI_SCORE_THRESHOLD", "RUST_LOG"]

/-- The variables that are set, those of some names. -/
def readVariables (names : List String) : IO Variables :=
  names.filterMapM fun name => do return (← IO.getEnv name).map fun value => (name, value)

/-- The content of a file, or why it cannot be read. -/
def tryReadFile (path : String) : IO (Except String String) := do
  try
    return .ok (← IO.FS.readFile path)
  catch
    | .noFileOrDirectory .. => return .error "No such file or directory (os error 2)"
    | e => return .error e.toString

/-- What the command of some arguments finds. -/
def readSurroundings (arguments : List String) : IO Surroundings := do
  let paths := ((Command.ofArguments arguments).toOption.map Command.files).getD []
  let files ← paths.mapM fun path => do return (path, ← tryReadFile path)
  let content path := (files.lookup path).getD (.error "file not read")
  let settingsText := (content Surroundings.settingsFile).toOption.getD ""
  let names := settingNames ++ Variables.mentioned settingsText.toList
  return ⟨← readVariables names, content⟩

end Hiring.CommandLine

open Hiring.CommandLine

/-- Runs the command that the arguments say. -/
def main (arguments : List String) : IO UInt32 := do
  let outcome := run (← readSurroundings arguments) arguments
  match outcome with
  | .printed text => IO.print text
  | .listening address =>
    IO.eprintln ("settings are in order for listening at " ++ address.text)
  | .failed failure => IO.eprintln ("application error: " ++ failure.message)
  | .refused e => IO.eprintln ("error: " ++ e.message)
  return outcome.status.toUInt32
