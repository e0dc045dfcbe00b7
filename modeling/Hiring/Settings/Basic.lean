import Hiring.Network.Address
import Hiring.Screening.Screener
import Hiring.Variables.File

/-!
# Settings

* `Settings` — what the program is told by its environment: the kind of the installation, where to
  listen, what to log, and the threshold for scores.
* `Settings.load` — the settings that some variables say; the first variable that makes no sense
  is the error.
* `Settings.endpoint` — where to listen.
-/

namespace Hiring

open Text
open Network (IpAddress SocketAddress)

/-- The kinds of installations. -/
inductive Settings.Environment where
  | development
  | test
  | production
deriving Repr, DecidableEq

/-- What the program is told by its environment. -/
structure Settings where
  environment : Settings.Environment
  host : String
  port : Nat
  logLevel : String
  screener : Screener

namespace Settings

/-- Why there are no settings. -/
inductive Error where
  | invalidPort
  | invalidHost
  /-- The threshold is no finite number. -/
  | invalidThreshold (value : String)
deriving Repr, DecidableEq

/-- The wording of an error. -/
def Error.message : Error → String
  | .invalidPort => "APP_PORT must be a valid u16"
  | .invalidHost => "APP_HOST must parse to an IPv4 or IPv6 address"
  | .invalidThreshold value =>
    "SCREENING_AI_SCORE_THRESHOLD must be a finite number, got '" ++ value ++ "'"

/-- The name of a kind of installation. -/
def Environment.name : Environment → String
  | .development => "Development"
  | .test => "Test"
  | .production => "Production"

/-- The kind of installation that a text says, in any case; everything unknown is development. -/
def Environment.ofText (s : String) : Environment :=
  let word := String.ofList (foldCase (trimChars s.toList))
  if word = "prod" ∨ word = "production" then .production
  else if word = "test" ∨ word = "ci" then .test
  else .development

/-- The greatest port. -/
def lastPort : Nat := 65535

/-- A port: decimal digits, in front of which a plus sign may stand. -/
def port? (s : String) : Option Nat :=
  let digits :=
    match s.toList with
    | '+' :: rest => rest
    | cs => cs
  if digits.isEmpty || !digits.all isDigit then none
  else if digitsValue digits ≤ lastPort then some (digitsValue digits)
  else none

/-- The screener that the threshold in the environment makes. -/
def loadScreener (vars : Variables) : Except Error Screener :=
  match vars.value? "SCREENING_AI_SCORE_THRESHOLD" with
  | none => .ok .standard
  | some raw =>
    match Binary64.finiteOfText? (trim raw) with
    | some threshold => .ok ⟨threshold⟩
    | none => .error (.invalidThreshold raw)

/-- The settings that some variables say. -/
def load (vars : Variables) : Except Error Settings :=
  match port? ((vars.value? "APP_PORT").getD "3000") with
  | none => .error .invalidPort
  | some port =>
    (loadScreener vars).map fun screener => {
      environment := .ofText ((vars.value? "APP_ENV").getD "development")
      host := (vars.value? "APP_HOST").getD "127.0.0.1"
      port := port
      logLevel := (vars.value? "APP_LOG_LEVEL").getD "info"
      screener := screener }

/-- The address that a host name says: the name of the machine itself, or an address. -/
def address? (host : String) : Option IpAddress :=
  if sameIgnoringCase host.toList "localhost".toList then some .loopback
  else IpAddress.ofText? host

/-- Where to listen. -/
def endpoint (s : Settings) : Except Error SocketAddress :=
  match address? s.host with
  | some address => .ok ⟨address, s.port⟩
  | none => .error .invalidHost

/-- The threshold of the environment is finite. -/
theorem isFinite_of_loadScreener {vars : Variables} {screener : Screener}
    (h : loadScreener vars = .ok screener) : screener.defaultThreshold.isFinite = true := by
  unfold loadScreener at h
  split at h
  · rw [← Except.ok.inj h]
    exact Screener.isFinite_standard
  · split at h
    · rename_i ht
      rw [← Except.ok.inj h]
      exact Binary64.isFinite_of_finiteOfText? ht
    · cases h

/-- Settings have a finite threshold. -/
theorem isFinite_of_load {vars : Variables} {s : Settings} (h : load vars = .ok s) :
    s.screener.defaultThreshold.isFinite = true := by
  unfold load at h
  split at h
  · cases h
  · cases hs : loadScreener vars with
    | error e => simp [hs, Except.map] at h
    | ok screener =>
      rw [hs] at h
      rw [← Except.ok.inj h]
      exact isFinite_of_loadScreener hs

end Settings

end Hiring
