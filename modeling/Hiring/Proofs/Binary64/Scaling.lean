import Hiring.Binary64.Basic

/-!
# Rounding sees the value of a quotient

Two quotients of one value are rounded to one number, and the quotients at the two ends of the
format are rounded to infinity and to zero.

* `ofQuotient_mul_mul` — a common factor does not count.
* `ofQuotient_of_limit_le`, `ofQuotient_of_lt_half` — from the limit on there is only infinity, and
  below half a unit only zero.
* `ofQuotient_eq_finite` — which magnitude a finite result has; the sign is taken over.
-/

set_option autoImplicit false

namespace Hiring.Binary64

variable {num den k : Nat}

/-! ## A common factor -/

theorem roundQuotient_mul_mul (hk : 0 < k) :
    roundQuotient (k * num) (k * den) = roundQuotient num den := by
  have hleft : 2 * (k * (num % den)) = k * (2 * (num % den)) := Nat.mul_left_comm 2 k _
  simp only [roundQuotient, Nat.mul_div_mul_left _ _ hk, Nat.mul_mod_mul_left, hleft,
    Nat.mul_lt_mul_left hk]

theorem nearest_mul_mul (hk : 0 < k) : nearest (k * num) (k * den) = nearest num den := by
  simp only [nearest, Nat.mul_div_mul_left _ _ hk, Nat.mul_assoc, roundQuotient_mul_mul hk]

/-- **A common factor of a quotient does not count.** -/
theorem ofQuotient_mul_mul (negative : Bool) (hk : 0 < k) :
    ofQuotient negative (k * num) (k * den) = ofQuotient negative num den := by
  simp only [ofQuotient, nearest_mul_mul hk]

/-! ## The ends of the format -/

theorem div_le_roundQuotient : num / den ≤ roundQuotient num den := by
  simp only [roundQuotient]
  split
  · exact Nat.le_refl _
  · split <;> omega

theorem le_log2_of_twoPow_le {n : Nat} (hn : n ≠ 0) (h : twoPow k ≤ n) : k ≤ n.log2 :=
  (Nat.le_log2 hn).2 h

/-- A quotient is not rounded below the power of two that it has reached. -/
theorem twoPow_log2_le_nearest (h : num / den ≠ 0) :
    twoPow (num / den).log2 ≤ nearest num den := by
  have hgrid : ulp (num / den) ∣ twoPow (num / den).log2 := twoPow_dvd (Nat.sub_le _ 52)
  calc twoPow (num / den).log2
      = twoPow (num / den).log2 / ulp (num / den) * ulp (num / den) :=
        (Nat.div_mul_cancel hgrid).symm
    _ ≤ num / den / ulp (num / den) * ulp (num / den) :=
        Nat.mul_le_mul_right _ (Nat.div_le_div_right (Nat.log2_self_le h))
    _ = num / (den * ulp (num / den)) * ulp (num / den) := by rw [Nat.div_div_eq_div_mul]
    _ ≤ nearest num den := Nat.mul_le_mul_right _ div_le_roundQuotient

theorem limit_le_nearest (hden : 0 < den) (h : limit * den ≤ num) : limit ≤ nearest num den := by
  have hq : limit ≤ num / den := (Nat.le_div_iff_mul_le hden).2 h
  have hne : num / den ≠ 0 := Nat.ne_of_gt (Nat.lt_of_lt_of_le limit_pos hq)
  have hlog : topPlaces + unitPlaces ≤ (num / den).log2 := le_log2_of_twoPow_le hne hq
  exact Nat.le_trans (twoPow_le hlog) (twoPow_log2_le_nearest hne)

theorem ofQuotient_of_limit_le (negative : Bool) (hden : 0 < den) (h : limit * den ≤ num) :
    ofQuotient negative num den = .infinity negative :=
  dif_neg (Nat.not_lt.2 (limit_le_nearest hden h))

theorem nearest_of_lt_half (h : 2 * num < den) : nearest num den = 0 := by
  have hq : num / den = 0 := Nat.div_eq_of_lt (by omega)
  have hm : num % den = num := Nat.mod_eq_of_lt (by omega)
  have hulp : ulp 0 = 1 := rfl
  simp only [nearest, hq, hulp, Nat.mul_one, roundQuotient, hm, if_pos h]

theorem ofQuotient_of_lt_half (negative : Bool) (h : 2 * num < den) :
    ofQuotient negative num den = .finite negative 0 fits_zero := by
  simp only [ofQuotient, nearest_of_lt_half h, limit_pos, dite_true]

/-! ## Finite results -/

theorem ofQuotient_eq_finite {negative : Bool} {units : Nat} {fits : Fits units} :
    ofQuotient negative num den = .finite negative units fits ↔ nearest num den = units := by
  rw [ofQuotient]
  split
  · simp
  · next hlimit =>
    constructor
    · intro h
      cases h
    · intro h
      exact absurd (h ▸ fits.2) hlimit

end Hiring.Binary64
