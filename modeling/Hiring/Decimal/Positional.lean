import Hiring.Decimal.Numeral
import Hiring.Decimal.Shortest

/-!
# Numbers in messages

In the messages of the program a number is written by its shortest digits and never with a power
of ten: zeros fill the places up to the point, and a whole number has no point.

* `positional` — digits and a power of ten, written out.
* `Binary64.text` — the text of a number, the two zeros told apart.
-/

namespace Hiring

open Text

namespace Decimal

/-- Digits and a power of ten, written out with zeros and a point. -/
def positional (digits : Nat) (exponent : Int) : List Char :=
  let ds := decimalDigits digits
  match exponent with
  | .ofNat e => ds ++ List.replicate e '0'
  | .negSucc e =>
    let places := e + 1
    if places < ds.length then
      ds.take (ds.length - places) ++ '.' :: ds.drop (ds.length - places)
    else '0' :: '.' :: (List.replicate (places - ds.length) '0' ++ ds)

end Decimal

namespace Binary64

/-- The sign in front of a number. -/
def signChars (negative : Bool) : List Char := if negative then ['-'] else []

/-- The characters of a number in a message. -/
def chars : Binary64 → List Char
  | .nan => "NaN".toList
  | .infinity negative => signChars negative ++ "inf".toList
  | .finite negative units _ =>
    signChars negative ++
      if units = 0 then ['0']
      else
        let (digits, exponent) := Decimal.shortest .up units
        Decimal.positional digits exponent

/-- The text of a number in a message. -/
def text (x : Binary64) : String := String.ofList x.chars

end Binary64

end Hiring
