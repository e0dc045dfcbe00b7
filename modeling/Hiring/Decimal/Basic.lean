import Hiring.Binary64.Basic

/-!
# Decimal numbers

A numeral denotes an exact decimal number, and a decimal number has one nearest binary
floating-point number.

* `Decimal` — sign, digits and a power of ten.
* `Decimal.nearest` — the nearest number of the binary format, found by one exact rounding.

Powers of ten far outside the format are settled without computing them: beyond `10 ^ 400` there
is nothing but infinity, and below `10 ^ -400` nothing but zero.
-/

namespace Hiring

/-- The number `± digits * 10 ^ exponent`. -/
structure Decimal where
  /-- The number has a minus sign; so may zero. -/
  negative : Bool
  /-- All digits, as one number. -/
  digits : Nat
  /-- The power of ten that the digits are multiplied by. -/
  exponent : Int
deriving Repr, DecidableEq

namespace Decimal

/-- A power of ten. -/
def tenPow (e : Nat) : Nat := Nat.pow 10 e

/-- The nearest binary floating-point number, a tie to the even one. -/
def nearest (d : Decimal) : Binary64 :=
  if d.digits = 0 then .finite d.negative 0 Binary64.fits_zero
  else if 400 < d.exponent then .infinity d.negative
  else if d.exponent < -(401 + (d.digits.log2 : Int)) then
    .finite d.negative 0 Binary64.fits_zero
  else
    match d.exponent with
    | .ofNat e => .ofQuotient d.negative (d.digits * tenPow e * Binary64.unitsPerOne) 1
    | .negSucc e => .ofQuotient d.negative (d.digits * Binary64.unitsPerOne) (tenPow (e + 1))

/-- No digits, no value: zero keeps its sign. -/
theorem nearest_zero (negative : Bool) (exponent : Int) :
    nearest ⟨negative, 0, exponent⟩ = .finite negative 0 Binary64.fits_zero := by
  simp [nearest]

/-- A decimal number is never read as no number. -/
theorem nearest_ne_nan (d : Decimal) : d.nearest ≠ .nan := by
  unfold nearest
  split
  · simp
  · split
    · simp
    · split
      · simp
      · split <;> exact Binary64.ofQuotient_ne_nan _ _ _

end Decimal

end Hiring
