import Hiring.Proofs.Binary64.Scaling
import Hiring.Decimal.Basic
import Mathlib.Tactic.Ring

/-!
# Rounding sees the value of a decimal number

`Decimal.nearest` settles very large and very small powers of ten without computing them.  What it
gives is the rounded value all the same, whichever way the power of ten is split into a numerator
and a denominator (`Decimal.nearest_sub`), so that zeros can be moved between the digits and the
power of ten (`Decimal.nearest_mul_tenPow`).
-/

set_option autoImplicit false

namespace Hiring.Decimal

open Binary64

/-! ## Powers of ten -/

theorem tenPow_pos (e : Nat) : 0 < tenPow e := Nat.pow_pos (by decide)

theorem tenPow_add (a b : Nat) : tenPow (a + b) = tenPow a * tenPow b := Nat.pow_add 10 a b

theorem tenPow_le {a b : Nat} (h : a ≤ b) : tenPow a ≤ tenPow b :=
  Nat.pow_le_pow_right (by decide) h

theorem twoPow_le_tenPow (e : Nat) : twoPow e ≤ tenPow e := Nat.pow_le_pow_left (by decide) e

/-! ## The powers of ten that are not computed -/

/-- What is ten to the four hundred or more is beyond the limit. -/
theorem limit_mul_le {digits p q : Nat} (hdigits : digits ≠ 0) (h : q + 401 ≤ p) :
    limit * tenPow q ≤ digits * tenPow p * unitsPerOne := by
  have htop : twoPow topPlaces ≤ tenPow 401 := by decide +kernel
  calc limit * tenPow q
      = twoPow topPlaces * tenPow q * unitsPerOne := by
        rw [limit, twoPow_add, Nat.mul_right_comm]
        rfl
    _ ≤ tenPow 401 * tenPow q * unitsPerOne :=
        Nat.mul_le_mul_right _ (Nat.mul_le_mul_right _ htop)
    _ = tenPow (q + 401) * unitsPerOne := by rw [tenPow_add, Nat.mul_comm (tenPow q)]
    _ ≤ tenPow p * unitsPerOne := Nat.mul_le_mul_right _ (tenPow_le h)
    _ ≤ digits * tenPow p * unitsPerOne :=
        Nat.mul_le_mul_right _ (Nat.le_mul_of_pos_left _ (Nat.pos_of_ne_zero hdigits))

/-- What is far below ten to the minus four hundred is less than half a unit. -/
theorem two_mul_lt {digits p q : Nat} (h : p + digits.log2 + 402 ≤ q) :
    2 * (digits * tenPow p * unitsPerOne) < tenPow q := by
  have hone : twoPow 2 * unitsPerOne ≤ tenPow 402 := by decide +kernel
  have hdouble : 2 * twoPow (digits.log2 + 1) = twoPow digits.log2 * twoPow 2 := by
    rw [twoPow_add, Nat.mul_left_comm]
    rfl
  have hpos : 0 < tenPow p * unitsPerOne := Nat.mul_pos (tenPow_pos p) unitsPerOne_pos
  calc 2 * (digits * tenPow p * unitsPerOne)
      = 2 * digits * (tenPow p * unitsPerOne) := by ring
    _ < 2 * twoPow (digits.log2 + 1) * (tenPow p * unitsPerOne) :=
        Nat.mul_lt_mul_of_pos_right
          (Nat.mul_lt_mul_of_pos_left (lt_twoPow_log2 digits) (by decide)) hpos
    _ = tenPow p * twoPow digits.log2 * (twoPow 2 * unitsPerOne) := by
        rw [hdouble]
        ring
    _ ≤ tenPow p * tenPow digits.log2 * tenPow 402 :=
        Nat.mul_le_mul (Nat.mul_le_mul_left _ (twoPow_le_tenPow _)) hone
    _ = tenPow (p + digits.log2 + 402) := by simp only [tenPow_add]
    _ ≤ tenPow q := tenPow_le h

/-! ## The value -/

/-- **A decimal number is rounded by its value**, as a quotient of any two powers of ten. -/
theorem nearest_sub (negative : Bool) (digits p q : Nat) :
    nearest ⟨negative, digits, (p : Int) - q⟩ =
      ofQuotient negative (digits * tenPow p * unitsPerOne) (tenPow q) := by
  rw [nearest]
  simp only
  -- Zero and the powers of ten that are not computed first: the quotient is rounded to what they
  -- are answered with.
  split
  · next hzero =>
    have hhalf : 2 * (digits * tenPow p * unitsPerOne) < tenPow q := by
      rw [hzero, Nat.zero_mul, Nat.zero_mul]
      exact tenPow_pos q
    exact (ofQuotient_of_lt_half negative hhalf).symm
  · next hdigits =>
    split
    · next hlarge =>
      have hpq : q + 401 ≤ p := by omega
      exact (ofQuotient_of_limit_le negative (tenPow_pos q) (limit_mul_le hdigits hpq)).symm
    · split
      · next hsmall =>
        have hpq : p + digits.log2 + 402 ≤ q := by omega
        exact (ofQuotient_of_lt_half negative (two_mul_lt hpq)).symm
      -- A power of ten that is computed is the quotient with a common factor taken out.
      · split
        · next e he =>
          have hp : p = q + e := by simp only [Int.ofNat_eq_natCast] at he; omega
          have hfactor : digits * tenPow p * unitsPerOne =
              tenPow q * (digits * tenPow e * unitsPerOne) := by
            rw [hp, tenPow_add]
            ring
          have hscaled : ofQuotient negative (tenPow q * (digits * tenPow e * unitsPerOne))
              (tenPow q * 1) = ofQuotient negative (digits * tenPow e * unitsPerOne) 1 :=
            ofQuotient_mul_mul negative (tenPow_pos q)
          rw [Nat.mul_one] at hscaled
          rw [hfactor, hscaled]
        · next e he =>
          have hq : q = p + (e + 1) := by omega
          have hfactor : digits * tenPow p * unitsPerOne =
              tenPow p * (digits * unitsPerOne) := by ring
          rw [hfactor, hq, tenPow_add p, ofQuotient_mul_mul negative (tenPow_pos p)]

/-- A power of ten as a difference of natural numbers. -/
theorem exists_sub (e : Int) : ∃ p q : Nat, e = (p : Int) - q :=
  ⟨e.toNat, (-e).toNat, by omega⟩

/-- **Zeros can be moved from the digits into the power of ten.** -/
theorem nearest_mul_tenPow (negative : Bool) (digits k : Nat) (e : Int) :
    nearest ⟨negative, digits * tenPow k, e⟩ = nearest ⟨negative, digits, e + k⟩ := by
  obtain ⟨p, q, rfl⟩ := exists_sub e
  have hshift : (p : Int) - q + k = (p + k : Nat) - (q : Int) := by omega
  have hdigits : digits * tenPow k * tenPow p = digits * tenPow (p + k) := by
    rw [tenPow_add]
    ring
  rw [hshift, nearest_sub, nearest_sub, hdigits]

end Hiring.Decimal
