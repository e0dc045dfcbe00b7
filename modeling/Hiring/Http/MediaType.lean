import Hiring.Text.Ascii

/-!
# Media types

* `MediaType.isJson` — the media type of a request body says that it is JSON: `application/json`,
  or any application format with the suffix `+json`, in any case and with any parameters.

A media type that is not well formed says nothing.
-/

namespace Hiring.Http.MediaType

open Text

/-- The characters of names in a media type. -/
def isToken (c : Char) : Bool :=
  isDigit c || ('a' ≤ c && c ≤ 'z') || ('A' ≤ c && c ≤ 'Z') || "!#$%&'*+-.^_`|~".toList.contains c

/-- The characters inside a quoted value: those of ASCII that can be seen, and the blank. -/
def isQuotable (c : Char) : Bool := 0x1F < c.toNat && c.toNat < 0x7F

/-- A place in the parameters of a media type. -/
inductive Part where
  /-- Before the name of a parameter, where blanks may stand. -/
  | beforeName
  | inName
  | beforeValue
  | inValue
  /-- At the first character inside quotes, which is never the closing one. -/
  | firstQuoted
  | inQuoted
  /-- After the closing quote, where blanks may stand. -/
  | afterQuoted

/-- The parameters that start at a place are well formed. -/
def parametersOk : Part → List Char → Bool
  | .beforeName, [] => true
  | .beforeName, c :: rest =>
    if c = ' ' then parametersOk .beforeName rest else isToken c && parametersOk .inName rest
  | .inName, [] => false
  | .inName, c :: rest =>
    if c = '=' then parametersOk .beforeValue rest else isToken c && parametersOk .inName rest
  | .beforeValue, [] => true
  | .beforeValue, c :: rest =>
    if c = '"' then parametersOk .firstQuoted rest else isToken c && parametersOk .inValue rest
  | .inValue, [] => true
  | .inValue, c :: rest =>
    if c = ';' then parametersOk .beforeName rest else isToken c && parametersOk .inValue rest
  | .firstQuoted, [] => false
  | .firstQuoted, c :: rest => isQuotable c && parametersOk .inQuoted rest
  | .inQuoted, [] => false
  | .inQuoted, c :: rest =>
    if c = '"' then parametersOk .afterQuoted rest else isQuotable c && parametersOk .inQuoted rest
  | .afterQuoted, [] => true
  | .afterQuoted, c :: rest =>
    if c = ';' then parametersOk .beforeName rest else c = ' ' && parametersOk .afterQuoted rest

/-- A subtype means JSON: it is `json` before its last plus sign or after it. -/
def subtypeIsJson (cs : List Char) : Bool :=
  let json := "json".toList
  let backwards := cs.reverse
  let suffix := (backwards.takeWhile (· != '+')).reverse
  if suffix.length + 1 < cs.length then
    sameIgnoringCase suffix json || sameIgnoringCase (cs.take (cs.length - suffix.length - 1)) json
  else sameIgnoringCase cs json

/-- The media type says that a body is JSON. -/
def isJson (mediaType : String) : Bool :=
  let cs := mediaType.toList
  let top := cs.takeWhile (· != '/')
  let rest := (cs.dropWhile (· != '/')).drop 1
  let subtype := rest.takeWhile (· != ';')
  let parameters := (rest.dropWhile (· != ';')).drop 1
  sameIgnoringCase top "application".toList && subtype.all isToken && subtypeIsJson subtype &&
    parametersOk .beforeName parameters

end Hiring.Http.MediaType
