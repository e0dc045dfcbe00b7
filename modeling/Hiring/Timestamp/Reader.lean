import Hiring.Decimal.Numeral
import Hiring.Json.Decoder
import Hiring.Text.Blank
import Hiring.Timestamp.Basic

/-!
# Reading points in time

A point in time is read from a date, a time of day and an offset from universal time, in the
order and with the separators of the written form.  Blanks may stand in front of each number and
of each separator, numbers need not have their leading zeros, and the offset may be `Z`, `UTC` or
hours and minutes.

* `Timestamp.ofText?` — the point in time that a text says.
* `Timestamp.decoder` — the point in time in a document.
-/

namespace Hiring.Timestamp

open Text

/-- At most `most` digits at the front, but at least one: their number and what follows. -/
def number? (most : Nat) (cs : List Char) : Option (Nat × List Char) :=
  let ds := (cs.takeWhile isDigit).take most
  if ds.isEmpty then none else some (digitsValue ds, cs.drop ds.length)

/-- One or two digits after blanks. -/
def pair? (cs : List Char) : Option (Nat × List Char) := number? 2 (trimStart cs)

/-- A year after blanks: up to four digits, or any number of them after a sign. -/
def year? (cs : List Char) : Option (Int × List Char) :=
  match trimStart cs with
  | '-' :: rest => (number? rest.length rest).map fun (n, after) => (-(n : Int), after)
  | '+' :: rest => (number? rest.length rest).map fun (n, after) => ((n : Int), after)
  | rest => (number? 4 rest).map fun (n, after) => ((n : Int), after)

/-- What follows a separator that blanks may stand in front of. -/
def after? (separator : Char) (cs : List Char) : Option (List Char) :=
  match trimStart cs with
  | c :: rest => if c = separator then some rest else none
  | [] => none

/-- The part of a second in nanoseconds: digits after a point, of which nine count. -/
def nanos? (cs : List Char) : Option (Nat × List Char) :=
  match cs with
  | '.' :: rest =>
    let ds := (rest.takeWhile isDigit).take 9
    if ds.isEmpty then none
    else some (digitsValue (ds ++ List.replicate (9 - ds.length) '0'), rest.dropWhile isDigit)
  | rest => some (0, rest)

/-- Two digits. -/
def twoDigits? : List Char → Option (Nat × List Char)
  | a :: b :: rest => if isDigit a && isDigit b then some (digitsValue [a, b], rest) else none
  | _ => none

/-- The sign of an offset: a minus may be the hyphen or the mathematical sign. -/
def offsetSign? : List Char → Option (Bool × List Char)
  | '+' :: rest => some (false, rest)
  | '-' :: rest => some (true, rest)
  | '−' :: rest => some (true, rest)
  | _ => none

/-- The offset from universal time in minutes: `UTC`, `Z`, or hours and minutes with a sign. -/
def offset? (cs : List Char) : Option (Int × List Char) :=
  if sameIgnoringCase (cs.take 3) ['u', 't', 'c'] then some (0, cs.drop 3)
  else
    match cs with
    | 'Z' :: rest => some (0, rest)
    | 'z' :: rest => some (0, rest)
    | cs => do
      let (negative, cs) ← offsetSign? cs
      let (hours, cs) ← twoDigits? cs
      let (minutes, cs) ← twoDigits? (cs.dropWhile fun c => c = ':' || isBlank c)
      if 60 ≤ minutes || 24 ≤ hours then none
      else
        let total : Int := (hours * 60 + minutes : Nat)
        some (if negative then -total else total, cs)

/-- A date: year, month and day. -/
def date? (cs : List Char) : Option ((Int × Nat × Nat) × List Char) := do
  let (year, cs) ← year? cs
  let cs ← after? '-' cs
  let (month, cs) ← pair? cs
  let cs ← after? '-' cs
  let (day, cs) ← pair? cs
  return ((year, month, day), cs)

/-- A time of day: hour, minute, second and nanoseconds. -/
def time? (cs : List Char) : Option ((Nat × Nat × Nat × Nat) × List Char) := do
  let (hour, cs) ← pair? cs
  let cs ← after? ':' cs
  let (minute, cs) ← pair? cs
  let cs ← after? ':' cs
  let (second, cs) ← pair? cs
  let (nanos, cs) ← nanos? cs
  return ((hour, minute, second, nanos), cs)

/-- The letter or blank between date and time of day. -/
def betweenDateAndTime? : List Char → Option (List Char)
  | 't' :: rest => some rest
  | 'T' :: rest => some rest
  | ' ' :: rest => some rest
  | _ => none

/-- The point in time that a text says.  The second after the fifty-ninth is a leap second. -/
def ofText? (s : String) : Option Timestamp := do
  let ((year, month, day), cs) ← date? s.toList
  let cs ← betweenDateAndTime? cs
  let ((hour, minute, second, nanos), cs) ← time? cs
  let (offset, cs) ← offset? (trimStart cs)
  let t : Timestamp :=
    if second = 60 then ⟨year, month, day, hour, minute, 59, nanos + 1000000000⟩
    else ⟨year, month, day, hour, minute, second, nanos⟩
  if (trimStart cs).isEmpty ∧ t.IsValid then t.shiftMinutes? (-offset) else none

/-- A point in time in a document. -/
def decoder : Json.Decoder Timestamp := fun _ d =>
  match d with
  | .string (some s) =>
    match ofText? s with
    | some t => .ok t
    | none => .error .unreadableTime
  | d => .error (Json.Decoder.mismatch "an RFC 3339 formatted date and time string" d)

end Hiring.Timestamp
