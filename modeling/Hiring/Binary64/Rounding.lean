/-!
# Rounding to fifty-three bits

Scores and thresholds are binary floating-point numbers of sixty-four bits.  Their magnitudes are
counted here in *units* of `2 ^ -1074`, the smallest one there is, so that a magnitude is a
natural number and every finite number is a whole number of units.

* `ulp` — the distance between neighbouring magnitudes.
* `Fits` — the magnitudes that the format has.
* `nearest` — an exact quotient rounded to the nearest of them, a tie to the even neighbour.

The main statement is `ulp_dvd_nearest`: what rounding gives lies on the grid it was rounded to,
so that it fits unless it is too large (`fits_nearest`).
-/

namespace Hiring.Binary64

/-- A power of two. -/
def twoPow (k : Nat) : Nat := Nat.pow 2 k

/-- The distance from a magnitude to the next: one unit up to `2 ^ 53`, and from there on twice as
much after each power of two. -/
def ulp (units : Nat) : Nat := twoPow (units.log2 - 52)

/-- One is `2 ^ 1074` units. -/
def unitPlaces : Nat := 1074

/-- The number of units that make one. -/
def unitsPerOne : Nat := twoPow unitPlaces

/-- The numbers end before `2 ^ 1024`. -/
def topPlaces : Nat := 1024

/-- The first magnitude that is too large, in units. -/
def limit : Nat := twoPow (topPlaces + unitPlaces)

/-- A number of units is a magnitude of the format: it has at most fifty-three significant bits
and is not too large. -/
def Fits (units : Nat) : Prop := ulp units ∣ units ∧ units < limit

instance (units : Nat) : Decidable (Fits units) :=
  inferInstanceAs (Decidable (_ ∧ _))

/-- A quotient rounded to the nearest integer, a tie to the even one. -/
def roundQuotient (num den : Nat) : Nat :=
  let q := num / den
  let r := num % den
  if 2 * r < den then q
  else if den < 2 * r then q + 1
  else q + q % 2

/-- An exact number of units, given as a quotient, rounded to the nearest magnitude as if there
were no largest one. -/
def nearest (num den : Nat) : Nat :=
  let step := ulp (num / den)
  roundQuotient num (den * step) * step

/-! ## Powers of two -/

theorem twoPow_pos (k : Nat) : 0 < twoPow k := Nat.two_pow_pos k

theorem twoPow_add (a b : Nat) : twoPow (a + b) = twoPow a * twoPow b := Nat.pow_add 2 a b

theorem twoPow_dvd {a b : Nat} (h : a ≤ b) : twoPow a ∣ twoPow b := Nat.pow_dvd_pow 2 h

theorem twoPow_le {a b : Nat} (h : a ≤ b) : twoPow a ≤ twoPow b :=
  Nat.pow_le_pow_right (by decide) h

theorem twoPow_lt {a b : Nat} (h : a < b) : twoPow a < twoPow b :=
  Nat.pow_lt_pow_right (by decide) h

theorem log2_twoPow (k : Nat) : (twoPow k).log2 = k := Nat.log2_two_pow

theorem lt_twoPow_log2 (n : Nat) : n < twoPow (n.log2 + 1) := Nat.lt_log2_self

theorem log2_lt_of_lt {n k : Nat} (hk : 0 < k) (h : n < twoPow k) : n.log2 < k := by
  by_cases hn : n = 0
  · subst hn; simpa using hk
  · exact (Nat.log2_lt hn).2 h

/-! ## The grid -/

theorem ulp_pos (units : Nat) : 0 < ulp units := twoPow_pos _

theorem unitsPerOne_pos : 0 < unitsPerOne := twoPow_pos unitPlaces

theorem limit_pos : 0 < limit := twoPow_pos (topPlaces + unitPlaces)

theorem fits_zero : Fits 0 := ⟨Nat.dvd_zero _, limit_pos⟩

/-- The rounded quotient is the floor or the number after it. -/
theorem roundQuotient_le (num den : Nat) : roundQuotient num den ≤ num / den + 1 := by
  simp only [roundQuotient]
  split
  · omega
  · split <;> omega

/-- A multiple of the divisor is rounded to the exact quotient. -/
theorem roundQuotient_mul (n : Nat) {den : Nat} (h : 0 < den) :
    roundQuotient (n * den) den = n := by
  simp [roundQuotient, Nat.mul_div_cancel n h, h]

/-- A multiple of a power of two by at most `2 ^ 53` lies on its own grid. -/
theorem ulp_dvd_mul_twoPow {k e : Nat} (hk : k ≤ twoPow 53) :
    ulp (k * twoPow e) ∣ k * twoPow e := by
  rcases Nat.lt_or_eq_of_le hk with hlt | heq
  · have hlog : (k * twoPow e).log2 - 52 ≤ e := by
      have : (k * twoPow e).log2 < 53 + e := by
        apply log2_lt_of_lt (by omega)
        rw [twoPow_add]
        exact Nat.mul_lt_mul_of_pos_right hlt (twoPow_pos e)
      omega
    exact Nat.dvd_trans (twoPow_dvd hlog) (Nat.dvd_mul_left _ _)
  · subst heq
    rw [← twoPow_add, ulp, log2_twoPow]
    exact twoPow_dvd (by omega)

theorem mul_twoPow_lt {n a : Nat} (b : Nat) (h : n < twoPow a) : n * twoPow b < twoPow (a + b) := by
  rw [twoPow_add]
  exact Nat.mul_lt_mul_of_pos_right h (twoPow_pos b)

theorem lt_twoPow_of_le {n a b : Nat} (h : n ≤ twoPow a) (hab : a < b) : n < twoPow b :=
  Nat.lt_of_le_of_lt h (twoPow_lt hab)

/-- The floor of a quotient, counted in steps of its own grid, has at most fifty-three bits. -/
theorem div_ulp_lt (n : Nat) : n / ulp n < twoPow 53 := by
  rw [Nat.div_lt_iff_lt_mul (ulp_pos n), ulp, ← twoPow_add]
  exact Nat.lt_of_lt_of_le (lt_twoPow_log2 n) (twoPow_le (by omega))

/-- Rounded to its own grid, a quotient is at most `2 ^ 53` steps. -/
theorem roundQuotient_ulp_le (num den : Nat) :
    roundQuotient num (den * ulp (num / den)) ≤ twoPow 53 := by
  have h₁ := roundQuotient_le num (den * ulp (num / den))
  have h₂ := div_ulp_lt (num / den)
  rw [Nat.div_div_eq_div_mul] at h₂
  omega

/-- **Rounding lands on the grid.** -/
theorem ulp_dvd_nearest (num den : Nat) : ulp (nearest num den) ∣ nearest num den :=
  ulp_dvd_mul_twoPow (roundQuotient_ulp_le num den)

theorem fits_nearest {num den : Nat} (h : nearest num den < limit) : Fits (nearest num den) :=
  ⟨ulp_dvd_nearest num den, h⟩

/-- A magnitude of the format is not changed by rounding. -/
theorem nearest_of_fits {units den : Nat} (h : Fits units) (hden : 0 < den) :
    nearest (units * den) den = units := by
  obtain ⟨k, hk⟩ := h.1
  have hq : units * den / den = units := Nat.mul_div_cancel _ hden
  simp only [nearest, hq]
  have : units * den = k * (den * ulp units) := by
    conv => lhs; rw [hk]
    rw [Nat.mul_comm (ulp units) k, Nat.mul_assoc, Nat.mul_comm (ulp units) den]
  rw [this, roundQuotient_mul _ (Nat.mul_pos hden (ulp_pos units)), Nat.mul_comm]
  exact hk.symm

end Hiring.Binary64
