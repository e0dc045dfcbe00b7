/-!
# Letters and digits of ASCII

Operator words, option values and host names are compared without regard to the case of their
ASCII letters; every other character has to match exactly.

* `foldCase` — ASCII capitals become small letters, nothing else changes.
* `sameIgnoringCase` — equality after `foldCase`.
* `digitsValue` — the number that a run of decimal digits stands for.
-/

namespace Hiring.Text

/-- ASCII capitals become small letters; every other character stays. -/
def foldCase (cs : List Char) : List Char := cs.map Char.toLower

/-- Equality of characters up to the case of ASCII letters. -/
def sameIgnoringCase (a b : List Char) : Bool := foldCase a == foldCase b

/-- The decimal digits `0` to `9`. -/
def isDigit (c : Char) : Bool := '0' ≤ c && c ≤ '9'

/-- The value of one decimal digit. -/
def digitValue (c : Char) : Nat := c.toNat - '0'.toNat

/-- The number written by a run of decimal digits, the most significant one first. -/
def digitsValue (cs : List Char) : Nat := cs.foldl (fun n c => 10 * n + digitValue c) 0

/-- Digits and letters up to `f` in either case: the digits of base sixteen. -/
def hexValue? (c : Char) : Option Nat :=
  if isDigit c then some (digitValue c)
  else if 'a' ≤ c && c ≤ 'f' then some (c.toNat - 'a'.toNat + 10)
  else if 'A' ≤ c && c ≤ 'F' then some (c.toNat - 'A'.toNat + 10)
  else none

/-- A number in small base sixteen digits, without leading zeros. -/
def hexDigits (n : Nat) : List Char := Nat.toDigits 16 n

/-- The digits of a number in base ten. -/
def decimalDigits (n : Nat) : List Char := Nat.toDigits 10 n

/-- The digits of a number, with zeros put in front until there are at least `width`. -/
def padded (width n : Nat) : List Char :=
  let digits := decimalDigits n
  List.replicate (width - digits.length) '0' ++ digits

theorem foldCase_length (cs : List Char) : (foldCase cs).length = cs.length := by
  simp [foldCase]

theorem sameIgnoringCase_iff {a b : List Char} :
    sameIgnoringCase a b = true ↔ foldCase a = foldCase b := by
  simp [sameIgnoringCase]

end Hiring.Text
