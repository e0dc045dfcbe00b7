import Hiring.Decimal.Basic
import Hiring.Json.Basic
import Hiring.Text.Ascii

/-!
# The number that digits of a document stand for

A numeral of a document is not rounded as a whole.  Of its digits as many are kept as sixty-four
bits can hold, the number of the kept digits is rounded to the format, and the rounded number is
multiplied or divided by powers of ten from a table, which are rounded as well.  So a numeral of
many digits can be read as a neighbour of the number that is nearest to it, and as infinite although
the nearest number is finite.

* `keepDigits` — the number of the digits that are kept, and the digits that are not.
* `scaled` — a number of kept digits, times a power of ten.
* `numberOf` — the number of a numeral that is cut into its parts.
-/

namespace Hiring.Json

open Binary64 Text

/-- The greatest number of kept digits. -/
def greatestKept : Nat := 0xFFFFFFFFFFFFFFFF

/-- Digits are put behind a number, up to the first one that makes it too large; that digit and all
others behind it are left over. -/
def keepDigits (kept : Nat) : List Char → Nat × List Char
  | [] => (kept, [])
  | c :: cs =>
    if 10 * kept + digitValue c ≤ greatestKept then keepDigits (10 * kept + digitValue c) cs
    else (kept, c :: cs)

/-- The last power of ten in the table. -/
def lastPower : Nat := 308

/-- The magnitude in the table for a power of ten. -/
def powerUnits (e : Nat) : Nat := nearest (Decimal.tenPow e * unitsPerOne) 1

/-- A magnitude that is divided by the last power of the table so many times, or until nothing is
left of it. -/
def dividedByLast (units : Nat) : Nat → Nat
  | 0 => units
  | times + 1 =>
    if units = 0 then 0
    else dividedByLast (nearest (units * unitsPerOne) (powerUnits lastPower)) times

/-- A number of digits, rounded, and then multiplied or divided by a power of ten with a rounding of
its own.  Beyond the table there is only infinity on one side, and on the other the last power of
the table is divided out until the rest of the power is in it. -/
def scaled (negative : Bool) (digits : Nat) (exponent : Int) : Binary64 :=
  let units := nearest (digits * unitsPerOne) 1
  match exponent with
  | .ofNat e =>
    if e ≤ lastPower then .ofQuotient negative (units * powerUnits e) unitsPerOne
    else if units = 0 then .finite negative 0 fits_zero
    else .infinity negative
  | .negSucc e =>
    .ofQuotient negative (dividedByLast units (e / lastPower) * unitsPerOne)
      (powerUnits (e % lastPower + 1))

/-- The number that a numeral stands for: an integer if it has neither fraction nor power and fits
sixty-four bits, else what its digits are scaled to, if that is finite.  Digits that are left over
in front of the point count as zeros, and those behind the point do not count. -/
def numberOf (negative : Bool) (whole fraction : List Char) (power : Option Int) :
    Option Number :=
  let front := keepDigits 0 whole
  let all := keepDigits front.1 fraction
  let places := fraction.length - all.2.length
  let real := Number.ofBinary64?
    (scaled negative all.1 (power.getD 0 + front.2.length - places))
  if fraction.isEmpty && power.isNone && front.2.isEmpty && !(negative && front.1 == 0) then
    (Number.ofInt? (if negative then -(front.1 : Int) else front.1)).or real
  else real

end Hiring.Json
