import Hiring.CommandLine.Help
import Hiring.Failure
import Hiring.Screening.Request
import Hiring.Settings.LogFilter

/-!
# Running a command

* `Surroundings` — what a command finds: variables and files.
* `screenFiles` — the report on answers in a file, by criteria in another file.
* `prepareServing` — everything that is settled before the program listens.
* `Outcome`, `run` — what comes of the arguments of the command line.
-/

namespace Hiring.CommandLine

open Json (Decoder)

/-- What a command finds when it starts. -/
structure Surroundings where
  /-- The variables that are set. -/
  assigned : Variables
  /-- The content of a file, or why it cannot be read. -/
  content : String → Except String String

namespace Surroundings

/-- The name of the file from which variables are completed. -/
def settingsFile : String := ".env"

/-- The variables, completed from the settings file if there is one. -/
def allVariables (s : Surroundings) : Variables :=
  s.assigned.withFile (s.content settingsFile).toOption

/-- The settings. -/
def settings (s : Surroundings) : Except Failure Settings :=
  (Settings.load s.allVariables).mapError .settings

/-- The value in a file. -/
def readJson (s : Surroundings) (path : String) : Except Failure Json := do
  let text ← (s.content path).mapError .io
  (Decoder.json.ofText text).mapError .input

end Surroundings

/-- The report on the answers in a file.  The criteria are read and understood before the file
with the answers is opened. -/
def screenFiles (s : Surroundings) (criteriaPath answersPath : String) (score : Option Binary64) :
    Except Failure ScreeningReport := do
  let settings ← s.settings
  let document ← s.readJson criteriaPath
  let criteria ← ((Decoder.list Criterion.decoder).ofJson document).mapError .input
  let answers ← s.readJson answersPath
  return settings.screener.report ⟨criteria, some answers, score⟩

/-- A filter for the log, or why there is none. -/
def checkLogFilter (s : Surroundings) (settings : Settings) : Except Failure Unit :=
  if LogFilter.accepted (s.allVariables.value? "RUST_LOG") settings.logLevel then .ok ()
  else .error (.logging (.invalidFilter settings.logLevel))

/-- Where to listen, once settings, log and host are in order. -/
def prepareServing (s : Surroundings) (host : Option String) (port : Option Nat) :
    Except Failure Network.SocketAddress := do
  let settings ← s.settings
  let settings := { settings with
    host := host.getD settings.host
    port := port.getD settings.port }
  checkLogFilter s settings
  settings.endpoint.mapError .settings

/-- What comes of a command. -/
inductive Outcome where
  /-- Something is printed. -/
  | printed (text : String)
  /-- Requests are awaited at an address. -/
  | listening (address : Network.SocketAddress)
  /-- The command failed. -/
  | failed (failure : Failure)
  /-- The arguments make no sense. -/
  | refused (e : UsageError)

/-- The status with which the program ends. -/
def Outcome.status : Outcome → Nat
  | .printed _ => 0
  | .listening _ => 0
  | .failed _ => 1
  | .refused _ => 2

/-- The name and the version of the program. -/
def versionText : String := "rekrut-api 0.1.0\n"

/-- A command that has been understood. -/
def Command.run (s : Surroundings) : Command → Outcome
  | .version => .printed versionText
  | .help topic => .printed topic.text
  | .screen criteriaPath answersPath score =>
    match screenFiles s criteriaPath answersPath score with
    | .ok report => .printed (report.toJson.pretty ++ "\n")
    | .error failure => .failed failure
  | .serve host port =>
    match prepareServing s host port with
    | .ok address => .listening address
    | .error failure => .failed failure

/-- What comes of the arguments of the command line. -/
def run (s : Surroundings) (arguments : List String) : Outcome :=
  match Command.ofArguments arguments with
  | .ok command => command.run s
  | .error e => .refused e

/-- The files that a command may open. -/
def Command.files : Command → List String
  | .screen criteriaPath answersPath _ => [Surroundings.settingsFile, criteriaPath, answersPath]
  | _ => [Surroundings.settingsFile]

end Hiring.CommandLine
