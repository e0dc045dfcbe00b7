import Hiring.Json.Scaling
import Hiring.Proofs.Decimal.Value

/-!
# When scaling digits does not lose anything

The reader of documents rounds more than once, and two roundings are not one.  But what the format
has is not changed by rounding.  With up to fifty-three bits of digits and a power of ten that the
format has, only the last step rounds, so that the result is the number nearest to the numeral after
all.

* `keepDigits_eq` — digits that fit are all kept.
* `powerUnits_eq` — the powers of ten up to the twenty-second are in the table as they are.
* `scaled_eq_nearest` — **few digits and a small power are scaled to the nearest number**.
-/

set_option autoImplicit false

namespace Hiring.Json

open Binary64 Text

variable {cs : List Char} {kept e digits : Nat} {exponent : Int}

/-! ## Digits that are kept -/

theorem le_foldl_digitValue (cs : List Char) (n : Nat) :
    n ≤ cs.foldl (fun n c => 10 * n + digitValue c) n := by
  induction cs generalizing n with
  | nil => exact Nat.le_refl n
  | cons c cs ih => exact Nat.le_trans (by omega) (ih (10 * n + digitValue c))

/-- Digits that fit behind those that were kept before are all kept. -/
theorem keepDigits_eq
    (h : cs.foldl (fun n c => 10 * n + digitValue c) kept ≤ greatestKept) :
    keepDigits kept cs = (cs.foldl (fun n c => 10 * n + digitValue c) kept, []) := by
  induction cs generalizing kept with
  | nil => rfl
  | cons c cs ih =>
    have hnext : 10 * kept + digitValue c ≤ greatestKept :=
      Nat.le_trans (le_foldl_digitValue cs _) h
    rw [keepDigits, if_pos hnext, ih h]
    rfl

/-- Digits on both sides of a point that fit together are all kept. -/
theorem keepDigits_append {whole fraction : List Char}
    (h : digitsValue (whole ++ fraction) ≤ greatestKept) :
    keepDigits 0 whole = (digitsValue whole, []) ∧
      keepDigits (digitsValue whole) fraction = (digitsValue (whole ++ fraction), []) := by
  have hall : digitsValue (whole ++ fraction) =
      fraction.foldl (fun n c => 10 * n + digitValue c) (digitsValue whole) := List.foldl_append
  rw [hall] at h ⊢
  exact ⟨keepDigits_eq (Nat.le_trans (le_foldl_digitValue fraction _) h), keepDigits_eq h⟩

/-! ## Steps that do not round -/

/-- **The small powers of ten are in the table as they are.** -/
theorem powerUnits_eq (h : e ≤ 22) : powerUnits e = Decimal.tenPow e * unitsPerOne := by
  have hfits : ∀ e ≤ 22, Fits (Decimal.tenPow e * unitsPerOne) := by decide +kernel
  have hnearest := nearest_of_fits (hfits e h) Nat.one_pos
  rwa [Nat.mul_one] at hnearest

theorem nearest_units (h : digits ≤ twoPow 53) :
    nearest (digits * unitsPerOne) 1 = digits * unitsPerOne := by
  have hnearest := nearest_of_fits (fits_of_le h) Nat.one_pos
  rwa [Nat.mul_one] at hnearest

/-- Few digits, and a small power of ten: both are numbers of the format. -/
structure IsSmall (d : Decimal) : Prop where
  digits : d.digits ≤ twoPow 53
  exponent : d.exponent.natAbs ≤ 22

/-- **Few digits and a small power are scaled to the nearest number.** -/
theorem scaled_eq_nearest {negative : Bool} (h : IsSmall ⟨negative, digits, exponent⟩) :
    scaled negative digits exponent = Decimal.nearest ⟨negative, digits, exponent⟩ := by
  obtain ⟨hdigits, hexponent⟩ := h
  unfold scaled
  rw [nearest_units hdigits]
  cases exponent with
  | ofNat e =>
    have htable : e ≤ lastPower := Nat.le_trans hexponent (by decide)
    have hpower : powerUnits e = Decimal.tenPow e * unitsPerOne := powerUnits_eq hexponent
    have hfactor : digits * unitsPerOne * (Decimal.tenPow e * unitsPerOne) =
        unitsPerOne * (digits * Decimal.tenPow e * unitsPerOne) := by ring
    calc (if e ≤ lastPower then
          ofQuotient negative (digits * unitsPerOne * powerUnits e) unitsPerOne
        else if digits * unitsPerOne = 0 then finite negative 0 fits_zero else infinity negative)
        = ofQuotient negative (unitsPerOne * (digits * Decimal.tenPow e * unitsPerOne))
            (unitsPerOne * 1) := by rw [if_pos htable, hpower, hfactor, Nat.mul_one]
      _ = ofQuotient negative (digits * Decimal.tenPow e * unitsPerOne) (Decimal.tenPow 0) :=
          ofQuotient_mul_mul negative unitsPerOne_pos
      _ = Decimal.nearest ⟨negative, digits, .ofNat e⟩ := (Decimal.nearest_sub _ _ e 0).symm
  | negSucc e =>
    have htable : e < lastPower := Nat.lt_of_lt_of_le hexponent (by decide)
    have hpower : powerUnits (e % lastPower + 1) = Decimal.tenPow (e + 1) * unitsPerOne := by
      rw [Nat.mod_eq_of_lt htable]
      exact powerUnits_eq hexponent
    have hzero : ((0 : Nat) : Int) - (e + 1 : Nat) = .negSucc e := by omega
    have hone : digits * Decimal.tenPow 0 = digits := Nat.mul_one digits
    have hvalue := Decimal.nearest_sub negative digits 0 (e + 1)
    rw [hzero, hone] at hvalue
    calc ofQuotient negative (dividedByLast (digits * unitsPerOne) (e / lastPower) * unitsPerOne)
          (powerUnits (e % lastPower + 1))
        = ofQuotient negative (unitsPerOne * (digits * unitsPerOne))
            (unitsPerOne * Decimal.tenPow (e + 1)) := by
          rw [Nat.div_eq_of_lt htable, dividedByLast, hpower, Nat.mul_comm (digits * unitsPerOne),
            Nat.mul_comm (Decimal.tenPow (e + 1))]
      _ = ofQuotient negative (digits * unitsPerOne) (Decimal.tenPow (e + 1)) :=
          ofQuotient_mul_mul negative unitsPerOne_pos
      _ = Decimal.nearest ⟨negative, digits, .negSucc e⟩ := hvalue.symm

end Hiring.Json
