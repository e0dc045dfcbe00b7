import Hiring.Criterion.Check
import Hiring.Proofs.Binary64.Order
import Mathlib.Data.List.Basic

/-!
# The comparisons form one order

Each of the five comparisons is a mix of its own of a strict comparison and the tolerance.  They fit
together all the same: of a value and a threshold exactly one of "more", "less" and "equal" holds,
the other two comparisons are what their names say, and each of them is the negation of a strict
one.  What has to be shown is that nothing falls into the gap, that is, that numbers which are not
near differ (`Comparison.near_of_not_lt`).  The converse is not asked for: numbers that are near may
differ, and then "equal" wins over "more" and "less".

* `Comparison.swapped`, `Comparison.holds_swapped` — the comparison with its two sides exchanged.
* `Comparison.atLeast_iff_not`, `Comparison.atMost_iff_not` — inclusive bounds as negations of
  strict ones.
* `Comparison.one_order` — **the comparisons form one order**, and an answer is not judged alike by
  a rule and by its opposite.
-/

set_option autoImplicit false

namespace Hiring

/-! ## Numbers without a difference -/

theorem Binary64.not_lt_of_lt {x y : Binary64} (h : x < y) : ¬ y < x :=
  not_lt_of_le (le_of_lt h)

/-- Numbers of which none is smaller have no distance, whatever the signs of two zeros. -/
theorem Binary64.distance_of_not_lt {x y : Binary64} (hx : x.isFinite = true)
    (hy : y.isFinite = true) (hxy : ¬ x < y) (hyx : ¬ y < x) : x.distance y = zero := by
  obtain ⟨b, a, hb, ha, hba⟩ := le_of_not_lt (ne_nan_of_isFinite hx) (ne_nan_of_isFinite hy) hxy
  have hab : a ≤ b := Int.not_lt.1 fun hlt => hyx (lt_iff.2 ⟨b, a, hb, ha, hlt⟩)
  obtain ⟨n, u, hu, rfl⟩ := isFinite_iff.1 hx
  obtain ⟨m, v, hv, rfl⟩ := isFinite_iff.1 hy
  simp only [value?, Option.some.injEq] at ha hb
  have hnone : (a - b).natAbs = 0 * 1 := by omega
  simp only [distance, ha, hb, hnone]
  exact ofQuotient_of_fits fits_zero Nat.one_pos

namespace Comparison

variable {x t : Binary64}

/-! ## Two sides exchanged -/

/-- The comparison that holds of a threshold and a value where the given one holds of the value and
the threshold. -/
def swapped : Comparison → Comparison
  | .atLeast => .atMost
  | .atMost => .atLeast
  | .greaterThan => .lessThan
  | .lessThan => .greaterThan
  | .equalTo => .equalTo

/-- **Exchanging the two sides exchanges the comparisons.** -/
theorem holds_swapped (c : Comparison) (x t : Binary64) : c.swapped.Holds t x ↔ c.Holds x t := by
  cases c <;> simp only [swapped, Holds, near_comm t x]

/-! ## Inclusive bounds -/

theorem atLeast_iff_or (x t : Binary64) :
    atLeast.Holds x t ↔ greaterThan.Holds x t ∨ equalTo.Holds x t := by
  by_cases hnear : near x t <;> simp [Holds, hnear]

theorem atMost_iff_or (x t : Binary64) :
    atMost.Holds x t ↔ lessThan.Holds x t ∨ equalTo.Holds x t := by
  by_cases hnear : near x t <;> simp [Holds, hnear]

theorem zero_lt_tolerance : Binary64.zero < tolerance := by decide +kernel

/-- **Nothing falls into a gap**: numbers of which none is smaller are near. -/
theorem near_of_not_lt (hx : x.isFinite = true) (ht : t.isFinite = true) (hxt : ¬ x < t)
    (htx : ¬ t < x) : near x t := by
  rw [near, Binary64.distance_of_not_lt hx ht hxt htx]
  exact zero_lt_tolerance

/-- "At least" is the negation of "less". -/
theorem atLeast_iff_not (hx : x.isFinite = true) (ht : t.isFinite = true) :
    atLeast.Holds x t ↔ ¬ lessThan.Holds x t := by
  constructor
  · rintro (htx | hnear) ⟨hxt, hfar⟩
    · exact Binary64.not_lt_of_lt htx hxt
    · exact hfar hnear
  · intro h
    by_cases htx : t < x
    · exact .inl htx
    · by_cases hxt : x < t
      · exact .inr (Classical.not_not.1 fun hfar => h ⟨hxt, hfar⟩)
      · exact .inr (near_of_not_lt hx ht hxt htx)

/-- "At most" is the negation of "more". -/
theorem atMost_iff_not (hx : x.isFinite = true) (ht : t.isFinite = true) :
    atMost.Holds x t ↔ ¬ greaterThan.Holds x t := by
  rw [← holds_swapped atMost, ← holds_swapped greaterThan]
  exact atLeast_iff_not ht hx

/-! ## More, less or equal -/

/-- The three comparisons of which one holds. -/
def strict : List Comparison := [.greaterThan, .lessThan, .equalTo]

theorem exists_strict (hx : x.isFinite = true) (ht : t.isFinite = true) :
    ∃ c ∈ strict, c.Holds x t := by
  by_cases hless : lessThan.Holds x t
  · exact ⟨_, by decide, hless⟩
  · rcases (atLeast_iff_or x t).1 ((atLeast_iff_not hx ht).2 hless) with hmore | hequal
    · exact ⟨_, by decide, hmore⟩
    · exact ⟨_, by decide, hequal⟩

/-- No two of the three hold at once, of whatever numbers. -/
theorem strict_unique {c c' : Comparison} (hc : c ∈ strict) (hc' : c' ∈ strict) (h : c.Holds x t)
    (h' : c'.Holds x t) : c = c' := by
  simp only [strict, List.mem_cons, List.not_mem_nil, or_false] at hc hc'
  rcases hc with rfl | rfl | rfl <;> rcases hc' with rfl | rfl | rfl
  case inl.inl | inr.inl.inr.inl | inr.inr.inr.inr => rfl
  case inl.inr.inl => exact absurd h'.1 (Binary64.not_lt_of_lt h.1)
  case inr.inl.inl => exact absurd h'.1 (Binary64.not_lt_of_lt h.1)
  case inl.inr.inr => exact absurd h' h.2
  case inr.inl.inr.inr => exact absurd h' h.2
  case inr.inr.inl => exact absurd h h'.2
  case inr.inr.inr.inl => exact absurd h h'.2

end Comparison

/-! ## Answers under a rule and under its opposite -/

/-- An answer that says a number passes or fails by the rule. -/
theorem tagName_checkNumber_of_reads {a : Answer} {value : Binary64} {r : String}
    {rule : NumericRule} (reads : a.number? = some value) (parses : NumericRule.parse r = .ok rule)
    (label : String) :
    (checkNumber a r label).tagName = if rule.Matches value then "passed" else "failed" := by
  rw [checkNumber, reads, parses]
  by_cases hmatches : rule.Matches value
  · simp only [if_pos hmatches, Outcome.tagName]
  · simp only [if_neg hmatches, Outcome.tagName]

theorem tagName_checkNumber_of_none {a : Answer} (h : a.number? = none) (r label : String) :
    (checkNumber a r label).tagName = "needs_review" := by
  rw [checkNumber, h]
  rfl

namespace Comparison

/-- A value that is "more" is not "at most", so that the one rule passes what the other fails. -/
theorem checkNumber_opposed {a : Answer} {t value : Binary64} {r r' : String}
    (reads : a.number? = some value) (ht : t.isFinite = true)
    (more : NumericRule.parse r = .ok ⟨.greaterThan, t⟩)
    (atMost : NumericRule.parse r' = .ok ⟨.atMost, t⟩) (label : String) :
    ((checkNumber a r label).tagName = "passed" ∧ (checkNumber a r' label).tagName = "failed") ∨
      ((checkNumber a r label).tagName = "failed" ∧
        (checkNumber a r' label).tagName = "passed") := by
  have hnot := atMost_iff_not (Answer.isFinite_of_number? reads) ht
  rw [tagName_checkNumber_of_reads reads more, tagName_checkNumber_of_reads reads atMost]
  simp only [NumericRule.Matches, hnot]
  by_cases hmore : greaterThan.Holds value t
  · exact .inl ⟨if_pos hmore, if_neg fun hless => hless hmore⟩
  · exact .inr ⟨if_neg hmore, if_pos hmore⟩

/-- **The comparisons form one order.**  Of a value and a threshold exactly one of "more", "less"
and "equal" holds; "at least" is "more" or "equal", and the negation of "less"; "at most" is "less"
or "equal", and the negation of "more"; and with the two sides exchanged the comparisons are
exchanged.  So no answer passes under both "more" and "at most", none fails under both, and if it
says a number it passes under one of them. -/
theorem one_order (x t : Binary64) (hx : x.isFinite = true) (ht : t.isFinite = true) :
    (∃ c ∈ strict, c.Holds x t ∧ ∀ c' ∈ strict, c'.Holds x t → c' = c) ∧
    (atLeast.Holds x t ↔ greaterThan.Holds x t ∨ equalTo.Holds x t) ∧
    (atLeast.Holds x t ↔ ¬ lessThan.Holds x t) ∧
    (atMost.Holds x t ↔ lessThan.Holds x t ∨ equalTo.Holds x t) ∧
    (atMost.Holds x t ↔ ¬ greaterThan.Holds x t) ∧
    (∀ c : Comparison, c.swapped.Holds t x ↔ c.Holds x t) ∧
    ∀ (a : Answer) (r r' label : String), NumericRule.parse r = .ok ⟨.greaterThan, t⟩ →
      NumericRule.parse r' = .ok ⟨.atMost, t⟩ →
      ¬ ((checkNumber a r label).tagName = "passed" ∧
          (checkNumber a r' label).tagName = "passed") ∧
      ¬ ((checkNumber a r label).tagName = "failed" ∧
          (checkNumber a r' label).tagName = "failed") ∧
      ((∃ value, a.number? = some value) →
        (checkNumber a r label).tagName = "passed" ∨
          (checkNumber a r' label).tagName = "passed") := by
  obtain ⟨c, hc, holds⟩ := exists_strict hx ht
  refine ⟨⟨c, hc, holds, fun c' hc' holds' => strict_unique hc' hc holds' holds⟩,
    atLeast_iff_or x t, atLeast_iff_not hx ht, atMost_iff_or x t, atMost_iff_not hx ht,
    fun c => holds_swapped c x t, fun a r r' label more atMost => ?_⟩
  cases reads : a.number? with
  | none =>
    rw [tagName_checkNumber_of_none reads, tagName_checkNumber_of_none reads]
    simp
  | some value =>
    rcases checkNumber_opposed reads ht more atMost label with ⟨h, h'⟩ | ⟨h, h'⟩ <;> simp [h, h']

/-- A number beyond three by less than the tolerance. -/
def barelyMore : Binary64 := Decimal.nearest ⟨false, 30000009, -7⟩

/-- Beyond three, but by less than the tolerance, is equal and not more, on either side of the
comparison; and the answer passes under "at most" and fails under "more", however the two rules are
spelled. -/
theorem one_order_barelyMore :
    barelyMore.isFinite = true ∧ .ofInt 3 < barelyMore ∧
    equalTo.Holds barelyMore (.ofInt 3) ∧ ¬ greaterThan.Holds barelyMore (.ofInt 3) ∧
    ¬ lessThan.Holds (.ofInt 3) barelyMore ∧
    (checkNumber (.text "3.0000009") "> 3" "ipk").tagName = "failed" ∧
    (checkNumber (.text "3.0000009") "max 3.0" "ipk").tagName = "passed" := by
  have hfinite : barelyMore.isFinite = true := by decide +kernel
  have hequal : equalTo.Holds barelyMore (.ofInt 3) := by decide +kernel
  obtain ⟨-, -, -, hatMost, hnot, hswapped, hanswers⟩ :=
    one_order barelyMore (.ofInt 3) hfinite (by decide +kernel)
  have hless := hnot.1 (hatMost.2 (.inr hequal))
  obtain ⟨-, -, hone⟩ := hanswers (.text "3.0000009") "> 3" "max 3.0" "ipk" (by decide +kernel)
    (by decide +kernel)
  have hfails : (checkNumber (.text "3.0000009") "> 3" "ipk").tagName = "failed" := by
    decide +kernel
  refine ⟨hfinite, by decide +kernel, hequal, hless,
    fun h => hless ((hswapped .greaterThan).1 h), hfails,
    (hone ⟨barelyMore, by decide +kernel⟩).resolve_left fun h => ?_⟩
  rw [hfails] at h
  exact absurd h (by decide)

end Comparison

end Hiring
