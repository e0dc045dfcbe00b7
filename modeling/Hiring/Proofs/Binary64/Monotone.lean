import Hiring.Proofs.Binary64.Order
import Hiring.Proofs.Binary64.Scaling

/-!
# Rounding keeps the order

A greater quotient is not rounded to a smaller number.  Inside the range between two powers of two
that is rounding to one grid; from one range to the next the grid changes, but rounding never
crosses the power of two in between (`nearest_le_twoPow`, `twoPow_log2_le_nearest`).

* `nearest_mono`, `ofQuotient_mono` — the order of quotients is kept.
* `isFinite_ofInt` — an integer of sixty-four bits is not too large.
* `distance_le_distance` — what lies between two numbers is at most as far from either as they are
  from each other, the rounded differences included.
-/

set_option autoImplicit false

namespace Hiring.Binary64

variable {num num' den : Nat}

/-! ## Quotients -/

theorem roundQuotient_mono (h : num ≤ num') :
    roundQuotient num den ≤ roundQuotient num' den := by
  rcases Nat.lt_or_eq_of_le (Nat.div_le_div_right (c := den) h) with hlt | heq
  · calc roundQuotient num den ≤ num / den + 1 := roundQuotient_le num den
      _ ≤ num' / den := hlt
      _ ≤ roundQuotient num' den := div_le_roundQuotient
  · have hmod : num % den ≤ num' % den := by
      have hsplit := Nat.div_add_mod num den
      have hsplit' := Nat.div_add_mod num' den
      rw [heq] at hsplit
      omega
    simp only [roundQuotient, heq]
    grind

/-- A quotient is not rounded beyond the next power of two. -/
theorem nearest_le_twoPow (num den : Nat) :
    nearest num den ≤ twoPow ((num / den).log2 + 1) := by
  by_cases hlog : 52 ≤ (num / den).log2
  · have hplaces : (num / den).log2 + 1 = 53 + ((num / den).log2 - 52) := by omega
    rw [hplaces, twoPow_add]
    exact Nat.mul_le_mul_right _ (roundQuotient_ulp_le num den)
  · have hulp : ulp (num / den) = 1 := by
      rw [ulp, Nat.sub_eq_zero_of_le (by omega)]
      rfl
    simp only [nearest, hulp, Nat.mul_one]
    exact Nat.le_trans (roundQuotient_le num den) (lt_twoPow_log2 (num / den))

theorem log2_le_log2 {a b : Nat} (h : a ≤ b) : a.log2 ≤ b.log2 := by
  by_cases ha : a = 0
  · subst ha
    exact Nat.zero_le _
  · exact le_log2_of_twoPow_le (by omega) (Nat.le_trans (Nat.log2_self_le ha) h)

/-- **The order of quotients is kept by rounding.** -/
theorem nearest_mono (h : num ≤ num') : nearest num den ≤ nearest num' den := by
  have hdiv : num / den ≤ num' / den := Nat.div_le_div_right h
  by_cases hlog : (num / den).log2 = (num' / den).log2
  · have hulp : ulp (num / den) = ulp (num' / den) := by rw [ulp, ulp, hlog]
    simp only [nearest, hulp]
    exact Nat.mul_le_mul_right _ (roundQuotient_mono h)
  · have hnext : (num / den).log2 + 1 ≤ (num' / den).log2 :=
      Nat.lt_of_le_of_ne (log2_le_log2 hdiv) hlog
    have hne : num' / den ≠ 0 := fun h0 => by
      rw [h0] at hnext
      exact absurd hnext (by simp)
    calc nearest num den ≤ twoPow ((num / den).log2 + 1) := nearest_le_twoPow num den
      _ ≤ twoPow (num' / den).log2 := twoPow_le hnext
      _ ≤ nearest num' den := twoPow_log2_le_nearest hne

/-- An integer of sixty-four bits is rounded to a finite number. -/
theorem isFinite_ofInt {n : Int} (h : n.natAbs ≤ twoPow 64) : (ofInt n).isFinite = true := by
  have hplaces : n.natAbs * unitsPerOne < twoPow (65 + unitPlaces) :=
    mul_twoPow_lt unitPlaces (lt_twoPow_of_le h (Nat.lt_succ_self 64))
  have hlog : (n.natAbs * unitsPerOne / 1).log2 + 1 ≤ 65 + unitPlaces := by
    rw [Nat.div_one]
    exact log2_lt_of_lt (by decide) hplaces
  have hlimit : nearest (n.natAbs * unitsPerOne) 1 < limit :=
    calc nearest (n.natAbs * unitsPerOne) 1
        ≤ twoPow ((n.natAbs * unitsPerOne / 1).log2 + 1) := nearest_le_twoPow _ 1
      _ ≤ twoPow (65 + unitPlaces) := twoPow_le hlog
      _ < limit := twoPow_lt (by decide)
  rw [ofInt, ofQuotient, dif_pos hlimit]
  rfl

theorem ofQuotient_mono (h : num ≤ num') :
    ofQuotient false num den ≤ ofQuotient false num' den := by
  have hnearest : nearest num den ≤ nearest num' den := nearest_mono h
  unfold ofQuotient
  split
  · next hlimit =>
    split
    · exact ⟨_, _, rfl, rfl, Int.ofNat_le.2 hnearest⟩
    · exact ⟨_, _, rfl, rfl, Int.ofNat_le.2 (Nat.le_of_lt hlimit)⟩
  · next hlimit =>
    rw [dif_neg (Nat.not_lt.2 (Nat.le_trans (Nat.not_lt.1 hlimit) hnearest))]
    exact ⟨_, _, rfl, rfl, Int.le_refl _⟩

/-! ## Differences -/

/-- **What lies between is not farther away.** -/
theorem distance_le_distance {x y z : Binary64} (hx : x.isFinite = true) (hy : y.isFinite = true)
    (hz : z.isFinite = true) (hxy : x ≤ y) (hyz : y ≤ z) :
    x.distance y ≤ x.distance z ∧ y.distance z ≤ x.distance z := by
  obtain ⟨n, a, ha, rfl⟩ := isFinite_iff.1 hx
  obtain ⟨m, b, hb, rfl⟩ := isFinite_iff.1 hy
  obtain ⟨k, c, hc, rfl⟩ := isFinite_iff.1 hz
  obtain ⟨u, v, hu, hv, huv⟩ := hxy
  obtain ⟨v', w, hv', hw, hvw⟩ := hyz
  simp only [value?, Option.some.injEq] at hu hv hv' hw
  simp only [distance, hu, hv, hw]
  exact ⟨ofQuotient_mono (by omega), ofQuotient_mono (by omega)⟩

end Hiring.Binary64
