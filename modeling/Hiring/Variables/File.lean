import Hiring.Text.Ascii
import Hiring.Variables.Lines
import Hiring.Variables.Value

/-!
# Settings files

A settings file has a line `NAME=value` for each variable; the word `export` may stand in front.

* `Statement`, `Statement.read?` — what one line says.
* `Variables.ofFile` — the variables in a file, up to the first line that makes no sense.
* `Variables.withFile` — the variables that are set, completed from a file; one that is set keeps
  its value (`value?_withFile`).
-/

namespace Hiring.Variables

open Text (trimStart trimEnd)

/-- What a line of a settings file says. -/
inductive Statement where
  /-- Nothing: the line is empty or a comment. -/
  | nothing
  /-- The value of a name. -/
  | assignment (name value : String)
deriving Repr, DecidableEq

namespace Statement

/-- A letter of ASCII or an underscore. -/
def startsName (c : Char) : Bool := c.isAlpha || c = '_'

/-- A character inside a name. -/
def continuesName (c : Char) : Bool := c.isAlphanum || c = '_' || c = '.'

/-- The name at the front of a text, and the text after it without the blanks at its front. -/
def name? (cs : List Char) : Option (List Char × List Char) :=
  match cs with
  | [] => none
  | c :: _ =>
    if startsName c then some (cs.takeWhile continuesName, trimStart (cs.dropWhile continuesName))
    else none

/-- The text after an equals sign, without the blanks at its front. -/
def afterEquals? : List Char → Option (List Char)
  | '=' :: rest => some (trimStart rest)
  | _ => none

/-- The name on a line and the text of its value.  The word `export` in front of a name is passed
over; without a name after it, it is itself the name. -/
def parts? (cs : List Char) : Option (List Char × List Char) := do
  let (name, rest) ← name? cs
  match afterEquals? rest with
  | some value => return (name, value)
  | none =>
    if name = "export".toList then
      let (name, rest) ← name? rest
      return (name, ← afterEquals? rest)
    else none

/-- What a line says, given the variables to which it may refer; `none` if it makes no sense. -/
def read? (vars : Variables) (line : List Char) : Option Statement :=
  match trimStart (trimEnd line) with
  | [] => some .nothing
  | '#' :: _ => some .nothing
  | cs => do
    let (name, value) ← parts? cs
    match value with
    | '#' :: _ => return .assignment (String.ofList name) ""
    | value => return .assignment (String.ofList name) (← readValue? vars value)

end Statement

/-- The variables on some lines, up to the first line that makes no sense.  A line may refer to
the variables that are set and to those on the lines before it. -/
def ofLines (vars : Variables) : List (List Char) → Variables
  | [] => []
  | line :: rest =>
    match Statement.read? vars line with
    | some (.assignment name value) =>
      (name, value) :: ofLines (vars ++ [(name, value)]) rest
    | some .nothing => ofLines vars rest
    | none => []

/-- The text without a byte order mark in front of it. -/
def withoutMark : List Char → List Char
  | '\ufeff' :: rest => rest
  | cs => cs

/-- The variables in a settings file, which may refer to the variables that are set. -/
def ofFile (vars : Variables) (content : String) : Variables :=
  ofLines vars (lines (withoutMark content.toList))

/-- The variables that are set, and those of a file where they are not. -/
def withFile (vars : Variables) (content : Option String) : Variables :=
  match content with
  | some content => vars ++ ofFile vars content
  | none => vars

/-- **A variable that is set keeps its value.** -/
theorem value?_withFile {vars : Variables} {name value : String} (content : Option String)
    (h : vars.value? name = some value) : (vars.withFile content).value? name = some value := by
  cases content with
  | none => exact h
  | some content => exact value?_append_of_eq_some (ofFile vars content) h

end Hiring.Variables
