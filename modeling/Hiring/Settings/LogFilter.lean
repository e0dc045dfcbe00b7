import Hiring.Settings.FieldPattern
import Hiring.Text.Alphanumeric
import Hiring.Text.Ascii
import Hiring.Text.Blank
import Hiring.Text.Pieces

/-!
# Filters for the log

What is logged is said by directives between commas: a level for everything, the name of a part of
the program, a span in square brackets with a field that it has to have in braces, and after an
equals sign the level for what is named.

* `LogFilter.isValid` — the text is a list of directives; pieces without any text do not count.
* `LogFilter.accepted` — a filter can be had: from the variable that wins if it is valid, else
  from the configured text.
-/

namespace Hiring.LogFilter

open Text

/-- The levels by name. -/
def levels : List String := ["error", "warn", "info", "debug", "trace", "off"]

/-- The greatest level by number. -/
def lastLevel : Nat := 5

/-- The text says a level by its number, in front of which a plus sign may stand. -/
def isLevelNumber (cs : List Char) : Bool :=
  let digits :=
    match cs with
    | '+' :: rest => rest
    | cs => cs
  !digits.isEmpty && digits.all isDigit && digitsValue digits ≤ lastLevel

/-- The text says a level: a name in any case, a number, or nothing. -/
def isLevel (cs : List Char) : Bool :=
  cs.isEmpty || levels.any (fun level => sameIgnoringCase cs level.toList) || isLevelNumber cs

/-- A character that the name of a part of the program may start with. -/
def startsName (c : Char) : Bool := c = '-' || c = ':' || c = '_' || isAlphanumeric c

/-- The text after a name or a span: nothing, or an equals sign and a level, if a level may stand
there. -/
def endsDirective (mayHaveLevel : Bool) : List Char → Bool
  | [] => true
  | '=' :: level => mayHaveLevel && isLevel level
  | _ => false

/-- The text after the opening bracket of a span: its name up to the closing bracket, or its name
and a field in braces. -/
def endsSpan (mayHaveLevel : Bool) (cs : List Char) : Bool :=
  match cs.dropWhile fun c => c != ']' && c != '{' with
  | ']' :: rest => endsDirective mayHaveLevel rest
  | '{' :: rest =>
    match rest.dropWhile (· != '}') with
    | '}' :: ']' :: after =>
      isField (rest.takeWhile (· != '}')) && endsDirective mayHaveLevel after
    | _ => false
  | _ => false

/-- The text is a directive.  Blanks around it do no harm if it has no level. -/
def isDirective (cs : List Char) : Bool :=
  let bare := trimChars cs
  let mayHaveLevel := bare == cs
  match bare with
  | [] => false
  | '[' :: rest => endsSpan mayHaveLevel rest
  | c :: _ =>
    startsName c &&
      match bare.dropWhile fun c => c != '=' && c != '[' with
      | '[' :: rest => endsSpan mayHaveLevel rest
      | rest => endsDirective mayHaveLevel rest

/-- The text is a list of directives. -/
def isValid (s : String) : Bool :=
  ((pieces ',' s.toList).filter fun piece => !piece.isEmpty).all isDirective

/-- A filter can be had from the overriding text, if there is one and it is valid, or from the
configured text. -/
def accepted (override : Option String) (configured : String) : Bool :=
  (override.map isValid).getD false || isValid configured

end Hiring.LogFilter
