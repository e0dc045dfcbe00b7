import Hiring.Decimal.Numeral
import Hiring.Settings.Basic

/-!
# Arguments of the command line

* `Command` — what the program is asked to do.
* `UsageError` — why arguments make no sense.
* `Command.ofArguments` — the command that some arguments say: first its name, then options with
  their values, each at most once and in any order.  Without arguments the program serves.

The value of an option stands after an equals sign or is the next argument; in the second form it
may not look like an option.  Arguments are taken in their order: once help is asked for, what
follows is not looked at, and a fault before it counts.
-/

namespace Hiring.CommandLine

open Text

/-- What help can be about. -/
inductive Topic where
  | program
  | serve
  | screen
  | help
deriving Repr, DecidableEq

/-- What the program is asked to do. -/
inductive Command where
  /-- Serve requests, at another host or port than configured. -/
  | serve (host : Option String) (port : Option Nat)
  /-- Screen the answers in one file by the criteria in another. -/
  | screen (criteriaPath answersPath : String) (score : Option Binary64)
  /-- Say which version this is. -/
  | version
  /-- Say which arguments there are. -/
  | help (topic : Topic)

/-- Why arguments make no sense. -/
inductive UsageError where
  | unknown (argument : String)
  | missing (option : String)
  | missingValue (option : String)
  | repeated (option : String)
  | badValue (option value : String)
deriving Repr, DecidableEq

/-- The wording of the error. -/
def UsageError.message : UsageError → String
  | .unknown argument => "unexpected argument '" ++ argument ++ "' found"
  | .missing option => "the required argument '--" ++ option ++ "' was not provided"
  | .missingValue option => "a value is required for '--" ++ option ++ "' but none was supplied"
  | .repeated option => "the argument '--" ++ option ++ "' cannot be used multiple times"
  | .badValue option value => "invalid value '" ++ value ++ "' for '--" ++ option ++ "'"

/-! ## Options -/

/-- An option of a command. -/
structure Flag where
  /-- The name without the hyphens. -/
  name : String
  /-- The texts that are values of the option. -/
  accepts : String → Bool

/-- An argument that could be an option: a hyphen and more. -/
def looksLikeOption (argument : String) : Bool :=
  match argument.toList with
  | '-' :: _ :: _ => true
  | _ => false

/-- An argument that starts with a hyphen and this letter. -/
def hasLetter (letter : Char) (argument : String) : Bool := argument.toList.take 2 == ['-', letter]

/-- An argument that asks for help. -/
def asksForHelp (argument : String) : Bool := argument == "--help" || hasLetter 'h' argument

/-- The name of an option and the value after its equals sign, if there is one. -/
def splitOption? (argument : String) : Option (String × Option String) :=
  match argument.toList with
  | '-' :: '-' :: cs =>
    let name := String.ofList (cs.takeWhile (· != '='))
    match cs.dropWhile (· != '=') with
    | '=' :: value => some (name, some (String.ofList value))
    | _ => some (name, none)
  | _ => none

/-- The options of a command with their values, or nothing if help is asked for. -/
def readOptions (known : List Flag) (seen : List (String × String)) :
    List String → Except UsageError (Option (List (String × String)))
  | [] => .ok (some seen)
  | argument :: rest =>
    if argument = "--" then
      match rest with
      | [] => .ok (some seen)
      | extra :: _ => .error (.unknown extra)
    else if asksForHelp argument then .ok none
    else
      match splitOption? argument with
      | none => .error (.unknown argument)
      | some (name, inline) =>
        match known.find? (·.name == name) with
        | none => .error (.unknown argument)
        | some flag =>
          if (seen.lookup name).isSome then .error (.repeated name)
          else
            match inline, rest with
            | some value, rest =>
              if flag.accepts value then readOptions known ((name, value) :: seen) rest
              else .error (.badValue name value)
            | none, value :: rest =>
              if looksLikeOption value then .error (.missingValue name)
              else if flag.accepts value then readOptions known ((name, value) :: seen) rest
              else .error (.badValue name value)
            | none, [] => .error (.missingValue name)

/-! ## Values -/

/-- A port: a whole number with an optional sign, in the range of ports. -/
def port? (value : String) : Option Nat := do
  let n ← Decimal.integer? value.toList
  if 0 ≤ n ∧ n ≤ Settings.lastPort then some n.toNat else none

/-- The host at which to serve. -/
def hostFlag : Flag := ⟨"host", fun _ => true⟩

/-- The port at which to serve. -/
def portFlag : Flag := ⟨"port", fun value => (port? value).isSome⟩

/-- The file with the criteria. -/
def criteriaFlag : Flag := ⟨"criteria", (· != "")⟩

/-- The file with the answers. -/
def answersFlag : Flag := ⟨"answers", (· != "")⟩

/-- The score of an applicant. -/
def scoreFlag : Flag := ⟨"ai-score", fun value => (Binary64.ofText? value).isSome⟩

/-- The value of an option that has to be there. -/
def requiredValue (options : List (String × String)) (flag : Flag) : Except UsageError String :=
  match options.lookup flag.name with
  | some value => .ok value
  | none => .error (.missing flag.name)

/-! ## Commands -/

/-- The command to serve. -/
def readServe (arguments : List String) : Except UsageError Command := do
  match ← readOptions [hostFlag, portFlag] [] arguments with
  | none => return .help .serve
  | some options =>
    return .serve (options.lookup hostFlag.name) ((options.lookup portFlag.name).bind port?)

/-- The command to screen. -/
def readScreen (arguments : List String) : Except UsageError Command := do
  match ← readOptions [criteriaFlag, answersFlag, scoreFlag] [] arguments with
  | none => return .help .screen
  | some options =>
    let criteria ← requiredValue options criteriaFlag
    let answers ← requiredValue options answersFlag
    return .screen criteria answers ((options.lookup scoreFlag.name).bind Binary64.ofText?)

/-- The names of the commands about which there is help. -/
def topics : List (String × Topic) := [("serve", .serve), ("screen", .screen), ("help", .help)]

/-- The command to help, with the name of a command or without. -/
def readHelp : List String → Except UsageError Command
  | [] => .ok (.help .program)
  | name :: rest =>
    match topics.lookup name, rest with
    | some topic, [] => .ok (.help topic)
    | some _, extra :: _ => .error (.unknown extra)
    | none, _ => .error (.unknown name)

/-- The command that some arguments say. -/
def Command.ofArguments : List String → Except UsageError Command
  | [] => .ok (.serve none none)
  | first :: rest =>
    if first = "serve" then readServe rest
    else if first = "screen" then readScreen rest
    else if first = "help" then readHelp rest
    else if first = "--version" || hasLetter 'V' first then .ok .version
    else if asksForHelp first then .ok (.help .program)
    else if first = "--" then
      match rest with
      | [] => .ok (.serve none none)
      | extra :: _ => .error (.unknown extra)
    else .error (.unknown first)

end Hiring.CommandLine
