import Hiring.Decimal.Basic
import Hiring.Text.Ascii

/-!
# Numerals

How a number is written in a rule, an answer, a setting or an option: an optional sign, then the
word `inf`, `infinity` or `nan` in any case, or digits with an optional point and an optional
power of ten.  At least one digit stands beside the point; no blank and no separator is allowed.

* `signed` — the sign and what follows it.
* `Decimal.ofUnsigned?` — the exact decimal number of an unsigned numeral.
* `Binary64.ofChars?`, `Binary64.ofText?` — the number that a numeral stands for.
-/

namespace Hiring

open Text

/-- The sign in front of some characters, and the characters after it. -/
def Text.signed : List Char → Bool × List Char
  | '-' :: rest => (true, rest)
  | '+' :: rest => (false, rest)
  | rest => (false, rest)

namespace Decimal

/-- A whole number of at least one digit with an optional sign, such as a power of ten. -/
def integer? (cs : List Char) : Option Int :=
  let (negative, digits) := signed cs
  if digits.isEmpty || !digits.all isDigit then none
  else some (if negative then -(digitsValue digits : Int) else digitsValue digits)

/-- The power of ten at the end of a numeral: nothing, or the letter `e` and an integer. -/
def power? : List Char → Option Int
  | [] => some 0
  | c :: rest => if c = 'e' || c = 'E' then integer? rest else none

/-- The decimal number of an unsigned numeral, with the sign given. -/
def ofUnsigned? (negative : Bool) (cs : List Char) : Option Decimal :=
  let whole := cs.takeWhile isDigit
  let (fraction, rest) :=
    match cs.dropWhile isDigit with
    | '.' :: rest => (rest.takeWhile isDigit, rest.dropWhile isDigit)
    | rest => ([], rest)
  if whole.isEmpty && fraction.isEmpty then none
  else
    (power? rest).map fun e => ⟨negative, digitsValue (whole ++ fraction), e - fraction.length⟩

end Decimal

namespace Binary64

/-- The number that a numeral stands for. -/
def ofChars? (cs : List Char) : Option Binary64 :=
  let (negative, body) := signed cs
  if sameIgnoringCase body "inf".toList || sameIgnoringCase body "infinity".toList then
    some (.infinity negative)
  else if sameIgnoringCase body "nan".toList then some .nan
  else (Decimal.ofUnsigned? negative body).map (·.nearest)

/-- The number that a numeral stands for; `none` if the text is no numeral. -/
def ofText? (s : String) : Option Binary64 := ofChars? s.toList

/-- The number of a numeral, unless it is infinite or no number. -/
def finiteOfText? (s : String) : Option Binary64 := (ofText? s).filter isFinite

theorem isFinite_of_finiteOfText? {s : String} {x : Binary64} (h : finiteOfText? s = some x) :
    x.isFinite = true := by
  simp only [finiteOfText?, Option.filter_eq_some_iff] at h
  exact h.2

end Binary64

end Hiring
