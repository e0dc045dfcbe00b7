import Hiring.Text.Blank

/-!
# Lines of a settings file

A line of a settings file ends at a line break, unless the break stands between quotation marks.  A
comment ends with its line in any case; it starts at a number sign that is the first character of
the line, blanks aside, or that follows a blank.

* `Phase` — how a character is to be understood, given those before it.
* `lines` — the lines of a file without their comments.  A last line that breaks off is left out:
  it ends between quotation marks, after a backslash, or after a blank with no line break.
-/

namespace Hiring.Variables

open Text (isBlank)

/-- How the next character of a line is to be understood. -/
inductive Phase where
  /-- Only blanks stand before it. -/
  | start
  | plain
  /-- It follows a blank, so that it may start a comment. -/
  | afterBlank
  /-- It follows a backslash. -/
  | escaped
  /-- It stands between two of these quotation marks. -/
  | quoted (mark : Char)
  /-- It stands between two of these quotation marks and follows a backslash. -/
  | quotedEscaped (mark : Char)
  | comment
deriving Repr, DecidableEq

namespace Phase

/-- The phase that a character opens which is neither blank nor in a comment. -/
def opened (c : Char) : Phase :=
  if c = '\\' then .escaped
  else if c = '"' || c = '\'' then .quoted c
  else .plain

/-- The phase after a character. -/
def next (phase : Phase) (c : Char) : Phase :=
  match phase with
  | .start => if c = '#' then .comment else if isBlank c then .start else opened c
  | .plain => if isBlank c && c != '\r' then .afterBlank else opened c
  | .afterBlank => if c = '#' then .comment else opened c
  | .escaped => .plain
  | .quoted mark => if c = '\\' then .quotedEscaped mark else if c = mark then .plain else phase
  | .quotedEscaped mark => .quoted mark
  | .comment => .comment

/-- A line break in this phase ends the line. -/
def endsAtBreak : Phase → Bool
  | .quoted _ => false
  | .quotedEscaped _ => false
  | _ => true

/-- The file may end in this phase. -/
def endsFile : Phase → Bool
  | .start => true
  | .plain => true
  | .comment => true
  | _ => false

end Phase

/-- The lines of a text, of whose first line `before` was read, the last character first. -/
def linesFrom (phase : Phase) (before : List Char) : List Char → List (List Char)
  | [] => if phase.endsFile then [before.reverse] else []
  | c :: rest =>
    if c = '\n' && phase.endsAtBreak then before.reverse :: linesFrom .start [] rest
    else
      match phase.next c with
      | .comment => linesFrom .comment before rest
      | phase => linesFrom phase (c :: before) rest

/-- The lines of a text without their comments. -/
def lines (cs : List Char) : List (List Char) := linesFrom .start [] cs

end Hiring.Variables
