import Hiring.Text.Alphanumeric
import Hiring.Text.Pieces
import Hiring.Variables.Basic

/-!
# Values in a settings file

A value may be written bare, between quotation marks, or as a mixture of both.  A dollar sign
refers to a variable: `$NAME`, whose name ends at the first character that is neither letter nor
digit, or `${NAME}`, whose name ends at the brace.  Between single quotation marks nothing has a
meaning of its own; between double ones a backslash and a dollar sign have.  After a blank outside
quotation marks only a comment may follow.

* `Reading` — how the next character of a value is to be understood.
* `readValue?` — the value that a text says.
* `mentioned` — the names that a text may refer to.
-/

namespace Hiring.Variables

open Text (isAlphanumeric)

/-- How the next character of a value is to be understood. -/
inductive Reading where
  | plain
  /-- It follows a backslash. -/
  | escaped
  /-- It stands between single quotation marks. -/
  | verbatim
  /-- It may belong to a name that started at a dollar sign; the last character comes first. -/
  | name (before : List Char)
  /-- It may belong to a name between braces; the last character comes first. -/
  | bracedName (before : List Char)
  /-- It follows a blank outside quotation marks. -/
  | ended

/-- The character that an escape stands for. -/
def unescape? (c : Char) : Option Char :=
  if c = 'n' then some '\n'
  else if c = '\\' || c = '\'' || c = '"' || c = '$' || c = ' ' then some c
  else none

/-- What a reference stands for whose name is given with the last character first. -/
def referenced (vars : Variables) (name : List Char) : List Char :=
  (vars.text (String.ofList name.reverse)).toList

/-- The value that a text says after some other text; `quoted` holds between double quotation
marks. -/
def readValueFrom (vars : Variables) (quoted : Bool) (reading : Reading) :
    List Char → Option (List Char)
  | [] =>
    match reading with
    | .verbatim => none
    | .bracedName _ => none
    | .name before => if quoted then none else some (referenced vars before)
    | _ => if quoted then none else some []
  | c :: rest =>
    match reading with
    | .ended =>
      if c = ' ' || c = '\t' then readValueFrom vars quoted .ended rest
      else if c = '#' then some []
      else none
    | .escaped =>
      match unescape? c with
      | some c => (readValueFrom vars quoted .plain rest).map (c :: ·)
      | none => none
    | .verbatim =>
      if c = '\'' then readValueFrom vars quoted .plain rest
      else (readValueFrom vars quoted .verbatim rest).map (c :: ·)
    | .name before =>
      if isAlphanumeric c then readValueFrom vars quoted (.name (c :: before)) rest
      else if c = '{' && before.isEmpty then readValueFrom vars quoted (.bracedName []) rest
      else if c = '$' then
        (readValueFrom vars quoted (.name []) rest).map (referenced vars before ++ ·)
      else (readValueFrom vars quoted .plain rest).map (referenced vars before ++ c :: ·)
    | .bracedName before =>
      if c = '}' then
        (readValueFrom vars quoted .plain rest).map (referenced vars before ++ ·)
      else readValueFrom vars quoted (.bracedName (c :: before)) rest
    | .plain =>
      if c = '$' then readValueFrom vars quoted (.name []) rest
      else if c = '\\' then readValueFrom vars quoted .escaped rest
      else if c = '"' then readValueFrom vars (!quoted) .plain rest
      else if quoted then (readValueFrom vars quoted .plain rest).map (c :: ·)
      else if c = '\'' then readValueFrom vars quoted .verbatim rest
      else if c = ' ' || c = '\t' then readValueFrom vars quoted .ended rest
      else (readValueFrom vars quoted .plain rest).map (c :: ·)

/-- The value that a text says; `none` if it breaks off or makes no sense. -/
def readValue? (vars : Variables) (cs : List Char) : Option String :=
  (readValueFrom vars false .plain cs).map String.ofList

/-- The name after a dollar sign. -/
def nameAhead : List Char → List Char
  | '{' :: rest => rest.takeWhile (· != '}')
  | rest => rest.takeWhile isAlphanumeric

/-- The names after the dollar signs of a text. -/
def mentioned (cs : List Char) : List String :=
  ((Text.pieces '$' cs).drop 1).map fun rest => String.ofList (nameAhead rest)

end Hiring.Variables
