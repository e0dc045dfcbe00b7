import Hiring.Decimal.Shortest
import Hiring.Json.Basic

/-!
# Writing JSON

* `Json.compact` — a value on one line without blanks.
* `Json.pretty` — a value over several lines, indented by two blanks.
* `Json.realChars` — a finite number by its shortest digits: written out with a fraction while its
  leading digit stands between the fifth place after the point and the sixteenth before it, and
  with a signed power of ten otherwise.
-/

namespace Hiring.Json

open Text

/-! ## Numbers -/

/-- Digits written out, with a point and at least one digit after it. -/
def withFraction (digits : Nat) (exponent : Int) : List Char :=
  let ds := decimalDigits digits
  match exponent with
  | .ofNat e => ds ++ List.replicate e '0' ++ ['.', '0']
  | .negSucc e =>
    let places := e + 1
    if places < ds.length then
      ds.take (ds.length - places) ++ '.' :: ds.drop (ds.length - places)
    else '0' :: '.' :: (List.replicate (places - ds.length) '0' ++ ds)

/-- Digits with a point after the first one and a signed power of ten. -/
def withPower (digits : Nat) (exponent : Int) : List Char :=
  let ds := decimalDigits digits
  let power := exponent + (ds.length - 1 : Nat)
  let point := if ds.length ≤ 1 then ds else ds.take 1 ++ '.' :: ds.drop 1
  point ++ 'e' :: (if power < 0 then '-' else '+') :: decimalDigits power.natAbs

/-- A positive magnitude by its shortest digits, a tie to the even digit. -/
def magnitudeChars (units : Nat) : List Char :=
  let (digits, exponent) := Decimal.shortest .even units
  let leading := exponent + ((decimalDigits digits).length - 1 : Nat)
  if -5 ≤ leading ∧ leading < 16 then withFraction digits exponent
  else withPower digits exponent

/-- A floating-point number; one that is not finite has no numeral and is written `null`. -/
def realChars : Binary64 → List Char
  | .finite negative units _ =>
    (if negative then ['-'] else []) ++
      (if units = 0 then ['0', '.', '0'] else magnitudeChars units)
  | _ => ['n', 'u', 'l', 'l']

/-- An integer. -/
def integerChars (n : Int) : List Char :=
  (if n < 0 then ['-'] else []) ++ decimalDigits n.natAbs

/-- A number of a document. -/
def Number.chars : Number → List Char
  | .integer n _ => integerChars n
  | .real x _ => realChars x

/-! ## Strings -/

/-- One character inside a string: quote, backslash and controls are escaped. -/
def escapeChar (c : Char) : List Char :=
  if c = '"' then ['\\', '"']
  else if c = '\\' then ['\\', '\\']
  else if c = '\n' then ['\\', 'n']
  else if c = '\r' then ['\\', 'r']
  else if c = '\t' then ['\\', 't']
  else if c = '\x08' then ['\\', 'b']
  else if c = '\x0c' then ['\\', 'f']
  else if c.toNat < 0x20 then
    let hex := hexDigits c.toNat
    ['\\', 'u'] ++ List.replicate (4 - hex.length) '0' ++ hex
  else [c]

/-- A string between its quotes. -/
def stringChars (s : String) : List Char := '"' :: (s.toList.flatMap escapeChar ++ ['"'])

/-! ## Values on one line -/

mutual

/-- The characters of a value, without blanks. -/
def compactChars : Json → List Char
  | .null => ['n', 'u', 'l', 'l']
  | .bool true => ['t', 'r', 'u', 'e']
  | .bool false => ['f', 'a', 'l', 's', 'e']
  | .number n => n.chars
  | .string s => stringChars s
  | .array items => '[' :: (compactItems items ++ [']'])
  | .object fields => '\x7b' :: (compactFields fields ++ ['\x7d'])

/-- The items of an array with commas between them. -/
def compactItems : List Json → List Char
  | [] => []
  | [item] => compactChars item
  | item :: rest => compactChars item ++ ',' :: compactItems rest

/-- The fields of an object with commas between them. -/
def compactFields : List (String × Json) → List Char
  | [] => []
  | [(name, value)] => stringChars name ++ ':' :: compactChars value
  | (name, value) :: rest =>
    stringChars name ++ ':' :: (compactChars value ++ ',' :: compactFields rest)

end

/-- The value on one line. -/
def compact (j : Json) : String := String.ofList j.compactChars

/-! ## Values over several lines -/

/-- The start of a line at a depth. -/
def newline (depth : Nat) : List Char := '\n' :: List.replicate (2 * depth) ' '

mutual

/-- The characters of a value whose first line starts at a depth. -/
def prettyChars (depth : Nat) : Json → List Char
  | .array [] => ['[', ']']
  | .array items => '[' :: (prettyItems (depth + 1) items ++ newline depth ++ [']'])
  | .object [] => ['\x7b', '\x7d']
  | .object fields => '\x7b' :: (prettyFields (depth + 1) fields ++ newline depth ++ ['\x7d'])
  | .null => ['n', 'u', 'l', 'l']
  | .bool true => ['t', 'r', 'u', 'e']
  | .bool false => ['f', 'a', 'l', 's', 'e']
  | .number n => n.chars
  | .string s => stringChars s

/-- The items of an array, each on lines of its own. -/
def prettyItems (depth : Nat) : List Json → List Char
  | [] => []
  | [item] => newline depth ++ prettyChars depth item
  | item :: rest => newline depth ++ prettyChars depth item ++ ',' :: prettyItems depth rest

/-- The fields of an object, each on lines of its own. -/
def prettyFields (depth : Nat) : List (String × Json) → List Char
  | [] => []
  | [(name, value)] => newline depth ++ stringChars name ++ ':' :: ' ' :: prettyChars depth value
  | (name, value) :: rest =>
    newline depth ++ stringChars name ++
      ':' :: ' ' :: (prettyChars depth value ++ ',' :: prettyFields depth rest)

end

/-- The value over several lines, two blanks for each depth. -/
def pretty (j : Json) : String := String.ofList (j.prettyChars 0)

end Hiring.Json
