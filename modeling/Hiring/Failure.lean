import Hiring.Http.Message
import Hiring.Json.Fault
import Hiring.Settings.Basic

/-!
# Failures of the program

* `Failure` — what ends a command or refuses a request.
* `Failure.message` — its wording: the part of the program that failed, and why.
* `Failure.response` — how it is answered over the network: an unreadable document is the fault of
  the sender, everything else is not.
-/

namespace Hiring

/-- Why there is no log. -/
inductive LoggingError where
  /-- A text is no filter. -/
  | invalidFilter (value : String)
  /-- The log could not be set up. -/
  | setUp (reason : String)
deriving Repr, DecidableEq

/-- The wording of the error. -/
def LoggingError.message : LoggingError → String
  | .invalidFilter value =>
    "invalid log level/filter '" ++ value ++ "': unable to build EnvFilter"
  | .setUp reason => "telemetry error: " ++ reason

/-- What ends a command or refuses a request. -/
inductive Failure where
  | settings (e : Settings.Error)
  | logging (e : LoggingError)
  | io (reason : String)
  | input (fault : Json.Fault)

namespace Failure

/-- The cause in words. -/
def cause : Failure → String
  | .settings e => e.message
  | .logging e => e.message
  | .io reason => reason
  | .input fault => fault.message

/-- The failure in words. -/
def message : Failure → String
  | .settings e => "configuration error: " ++ e.message
  | .logging e => "telemetry error: " ++ e.message
  | .io reason => "io error: " ++ reason
  | .input fault => "invalid input document: " ++ fault.message

/-- The cause has a cause of its own. -/
def hasDeeperCause : Failure → Bool
  | .settings .invalidHost => true
  | .logging _ => true
  | _ => false

/-- The status with which the failure is answered. -/
def status : Failure → Nat
  | .input _ => 400
  | _ => 500

/-- The answer to a request. -/
def response (f : Failure) : Http.Response := .ofError f.status f.message

end Failure

end Hiring
