import Hiring.Binary64.Basic

/-!
# At most

`x ≤ y` for the numbers of scores and thresholds: both have a value, and that of `x` is not the
greater one.  What is no number is neither at most nor at least anything, so on the whole type
"not smaller" is weaker than "at least": `not_lt_iff` says by how much.
-/

set_option autoImplicit false

namespace Hiring.Binary64

instance : LE Binary64 :=
  ⟨fun x y => ∃ a b, x.value? = some a ∧ y.value? = some b ∧ a ≤ b⟩

instance (x y : Binary64) : Decidable (x ≤ y) :=
  match hx : x.value?, hy : y.value? with
  | some a, some b =>
    decidable_of_iff (a ≤ b)
      ⟨fun h => ⟨a, b, hx, hy, h⟩, fun ⟨a', b', ha, hb, h⟩ => by
        rw [hx, Option.some.injEq] at ha
        rw [hy, Option.some.injEq] at hb
        rwa [ha, hb]⟩
  | none, _ => isFalse fun ⟨_, _, ha, _, _⟩ => by simp [hx] at ha
  | some _, none => isFalse fun ⟨_, _, _, hb, _⟩ => by simp [hy] at hb

theorem exists_value {x : Binary64} (h : x ≠ .nan) : ∃ a, x.value? = some a := by
  cases x with
  | nan => exact absurd rfl h
  | infinity negative => exact ⟨_, rfl⟩
  | finite negative units fits => exact ⟨_, rfl⟩

theorem ne_nan_of_isFinite {x : Binary64} (h : x.isFinite = true) : x ≠ .nan := by
  rintro rfl
  cases h

theorem not_le_nan (x : Binary64) : ¬ x ≤ .nan := by
  rintro ⟨a, b, -, hb, -⟩
  cases hb

theorem not_lt_of_le {x y : Binary64} (h : y ≤ x) : ¬ x < y := by
  obtain ⟨b, a, hb, ha, hba⟩ := h
  rw [lt_iff]
  rintro ⟨a', b', ha', hb', hab⟩
  rw [ha, Option.some.injEq] at ha'
  rw [hb, Option.some.injEq] at hb'
  omega

/-- Two numbers can be compared. -/
theorem le_of_not_lt {x y : Binary64} (hx : x ≠ .nan) (hy : y ≠ .nan) (h : ¬ x < y) : y ≤ x := by
  obtain ⟨a, ha⟩ := exists_value hx
  obtain ⟨b, hb⟩ := exists_value hy
  refine ⟨b, a, hb, ha, ?_⟩
  have hab : ¬ a < b := fun hab => h (lt_iff.2 ⟨a, b, ha, hb, hab⟩)
  omega

theorem le_of_lt {x y : Binary64} (h : x < y) : x ≤ y := by
  obtain ⟨a, b, ha, hb, hab⟩ := lt_iff.1 h
  exact ⟨a, b, ha, hb, Int.le_of_lt hab⟩

theorem lt_of_le_of_lt {x y z : Binary64} (hxy : x ≤ y) (hyz : y < z) : x < z := by
  obtain ⟨a, b, ha, hb, hab⟩ := hxy
  obtain ⟨b', c, hb', hc, hbc⟩ := lt_iff.1 hyz
  rw [hb, Option.some.injEq] at hb'
  exact lt_iff.2 ⟨a, c, ha, hc, by omega⟩

theorem lt_of_lt_of_le {x y z : Binary64} (hxy : x < y) (hyz : y ≤ z) : x < z := by
  obtain ⟨a, b, ha, hb, hab⟩ := lt_iff.1 hxy
  obtain ⟨b', c, hb', hc, hbc⟩ := hyz
  rw [hb, Option.some.injEq] at hb'
  exact lt_iff.2 ⟨a, c, ha, hc, by omega⟩

/-- Against a number, what is not smaller is at least as great or no number at all. -/
theorem not_lt_iff {x y : Binary64} (hy : y ≠ .nan) : ¬ x < y ↔ x = .nan ∨ y ≤ x := by
  constructor
  · intro h
    by_cases hx : x = .nan
    · exact .inl hx
    · exact .inr (le_of_not_lt hx hy h)
  · rintro (rfl | h)
    · exact not_nan_lt y
    · exact not_lt_of_le h

end Hiring.Binary64
