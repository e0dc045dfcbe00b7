import Hiring.Text.Ascii

/-!
# Points in time

When an application came in is kept as a date and a time of day in universal time, down to the
nanosecond.  A leap second is the fifty-ninth second with a billion nanoseconds or more.

* `Timestamp` — date and time of day.
* `Timestamp.le` — earlier or equal: the order of the components.
* `Timestamp.text` — the usual written form, with as many digits of the second as are needed, in
  threes.
* `Timestamp.shiftMinutes?` — the same clock some minutes later or earlier.
-/

namespace Hiring

/-- A date and a time of day in universal time. -/
structure Timestamp where
  year : Int
  month : Nat
  day : Nat
  hour : Nat
  minute : Nat
  second : Nat
  /-- The part of the second in nanoseconds; from a billion on it belongs to a leap second. -/
  nanos : Nat
deriving Repr, DecidableEq

namespace Timestamp

/-! ## Calendar -/

/-- The year has a twenty-ninth of February. -/
def isLeapYear (year : Int) : Bool := year % 4 == 0 && (year % 100 != 0 || year % 400 == 0)

/-- The number of days of a month. -/
def daysInMonth (year : Int) (month : Nat) : Nat :=
  match month with
  | 2 => if isLeapYear year then 29 else 28
  | 4 | 6 | 9 | 11 => 30
  | _ => 31

/-- The first year that can be written down. -/
def firstYear : Int := -262143

/-- The last year that can be written down. -/
def lastYear : Int := 262142

/-- The components make a date and a time of day. -/
def IsValid (t : Timestamp) : Prop :=
  firstYear ≤ t.year ∧ t.year ≤ lastYear ∧ 1 ≤ t.month ∧ t.month ≤ 12 ∧ 1 ≤ t.day ∧
    t.day ≤ daysInMonth t.year t.month ∧ t.hour < 24 ∧ t.minute < 60 ∧ t.second < 60 ∧
    t.nanos < 2000000000

instance (t : Timestamp) : Decidable t.IsValid :=
  inferInstanceAs (Decidable (_ ∧ _))

/-- The same time on the day after. -/
def nextDay (t : Timestamp) : Timestamp :=
  if t.day < daysInMonth t.year t.month then { t with day := t.day + 1 }
  else if t.month < 12 then { t with month := t.month + 1, day := 1 }
  else { t with year := t.year + 1, month := 1, day := 1 }

/-- The same time on the day before. -/
def previousDay (t : Timestamp) : Timestamp :=
  if 1 < t.day then { t with day := t.day - 1 }
  else if 1 < t.month then
    { t with month := t.month - 1, day := daysInMonth t.year (t.month - 1) }
  else { t with year := t.year - 1, month := 12, day := 31 }

/-- The time some minutes later, or earlier for a negative number of minutes, by less than a day;
`none` if the year can no longer be written. -/
def shiftMinutes? (t : Timestamp) (minutes : Int) : Option Timestamp :=
  let total := (t.hour * 60 + t.minute : Nat) + minutes
  let t :=
    if total < 0 then t.previousDay
    else if 1440 ≤ total then t.nextDay
    else t
  let ofDay := (total % 1440).toNat
  let t := { t with hour := ofDay / 60, minute := ofDay % 60 }
  if firstYear ≤ t.year ∧ t.year ≤ lastYear then some t else none

/-! ## Order -/

/-- The components from the largest to the smallest. -/
def key (t : Timestamp) : List Int :=
  [t.year, t.month, t.day, t.hour, t.minute, t.second, t.nanos]

/-- The first components that differ decide. -/
def keyLe : List Int → List Int → Bool
  | [], _ => true
  | _ :: _, [] => false
  | x :: xs, y :: ys => decide (x < y) || (decide (x = y) && keyLe xs ys)

/-- Earlier or at the same time. -/
def le (a b : Timestamp) : Bool := keyLe a.key b.key

/-- Times with the same components in order are the same. -/
theorem key_injective {a b : Timestamp} (h : a.key = b.key) : a = b := by
  obtain ⟨y, mo, d, hh, mi, s, n⟩ := a
  simp only [key, List.cons.injEq] at h
  obtain ⟨h₁, h₂, h₃, h₄, h₅, h₆, h₇, _⟩ := h
  subst h₁
  congr <;> omega

/-! ## Written form -/

open Text

/-- The year: four digits, or more with a sign for years far away. -/
def yearChars (year : Int) : List Char :=
  if 0 ≤ year ∧ year ≤ 9999 then padded 4 year.natAbs
  else (if year < 0 then '-' else '+') :: padded 4 year.natAbs

/-- The part of a second: nothing, or three, six or nine digits after a point. -/
def fractionChars (nanos : Nat) : List Char :=
  if nanos = 0 then []
  else if nanos % 1000000 = 0 then '.' :: padded 3 (nanos / 1000000)
  else if nanos % 1000 = 0 then '.' :: padded 6 (nanos / 1000)
  else '.' :: padded 9 nanos

/-- The written form in universal time. -/
def text (t : Timestamp) : String :=
  let leap := 1000000000 ≤ t.nanos
  let second := if leap then t.second + 1 else t.second
  let nanos := if leap then t.nanos - 1000000000 else t.nanos
  String.ofList (yearChars t.year ++ '-' :: padded 2 t.month ++ '-' :: padded 2 t.day ++
    'T' :: padded 2 t.hour ++ ':' :: padded 2 t.minute ++ ':' :: padded 2 second ++
    fractionChars nanos ++ ['Z'])

end Timestamp

end Hiring
