import Hiring.Criterion.Basic
import Hiring.Criterion.NumericRule
import Hiring.Proofs.Binary64.Monotone

/-!
# Rules that ask for more, and rules that ask for less

A rule with a lower bound should hold of a value if it holds of a smaller one.  The tolerance makes
that less obvious than it looks: numbers near the threshold count as equal to it, so that the values
that satisfy a bound do not begin at the threshold, and near it everything hangs on rounded
differences.

* `Comparison.near_of_le_of_le` — what lies between two numbers that are near is near to both.
* `Comparison.Holds.of_le`, `Comparison.Holds.of_ge` — **lower bounds go on to greater values**, and
  upper bounds to smaller ones.
* `Criterion.AsksOnly` — the field is for a number, and its rule compares in one of some ways if it
  says anything.
-/

set_option autoImplicit false

namespace Hiring

namespace Comparison

variable {c : Comparison} {x y z threshold : Binary64}

/-- The comparisons that ask for more. -/
def lowerBounds : List Comparison := [.atLeast, .greaterThan]

/-- The comparisons that ask for less. -/
def upperBounds : List Comparison := [.atMost, .lessThan]

/-- What lies between two numbers that are near is near to both. -/
theorem near_of_le_of_le (hx : x.isFinite = true) (hy : y.isFinite = true)
    (hz : z.isFinite = true) (hxy : x ≤ y) (hyz : y ≤ z) (h : near x z) :
    near x y ∧ near y z := by
  obtain ⟨hleft, hright⟩ := Binary64.distance_le_distance hx hy hz hxy hyz
  exact ⟨Binary64.lt_of_le_of_lt hleft h, Binary64.lt_of_le_of_lt hright h⟩

section

variable (hx : x.isFinite = true) (hy : y.isFinite = true) (ht : threshold.isFinite = true)
  (hxy : x ≤ y)

include hx hy ht hxy

/-- **A lower bound that holds of a value holds of every greater one.** -/
theorem Holds.of_le (hc : c ∈ lowerBounds) (h : c.Holds x threshold) : c.Holds y threshold := by
  simp only [lowerBounds, List.mem_cons, List.not_mem_nil, or_false] at hc
  rcases hc with rfl | rfl
  · rcases h with h | h
    · exact .inl (Binary64.lt_of_lt_of_le h hxy)
    · by_cases hty : threshold < y
      · exact .inl hty
      · have hyt : y ≤ threshold := Binary64.le_of_not_lt (Binary64.ne_nan_of_isFinite ht)
          (Binary64.ne_nan_of_isFinite hy) hty
        exact .inr (near_of_le_of_le hx hy ht hxy hyt h).2
  · obtain ⟨htx, hfar⟩ := h
    refine ⟨Binary64.lt_of_lt_of_le htx hxy, fun hnear => hfar ?_⟩
    rw [near_comm] at hnear ⊢
    exact (near_of_le_of_le ht hx hy (Binary64.le_of_lt htx) hxy hnear).1

/-- **An upper bound that holds of a value holds of every smaller one.** -/
theorem Holds.of_ge (hc : c ∈ upperBounds) (h : c.Holds y threshold) : c.Holds x threshold := by
  simp only [upperBounds, List.mem_cons, List.not_mem_nil, or_false] at hc
  rcases hc with rfl | rfl
  · rcases h with h | h
    · exact .inl (Binary64.lt_of_le_of_lt hxy h)
    · by_cases hxt : x < threshold
      · exact .inl hxt
      · have htx : threshold ≤ x := Binary64.le_of_not_lt (Binary64.ne_nan_of_isFinite hx)
          (Binary64.ne_nan_of_isFinite ht) hxt
        rw [near_comm] at h
        refine .inr ?_
        rw [near_comm]
        exact (near_of_le_of_le ht hx hy htx hxy h).1
  · obtain ⟨hyt, hfar⟩ := h
    refine ⟨Binary64.lt_of_le_of_lt hxy hyt, fun hnear => hfar ?_⟩
    exact (near_of_le_of_le hx hy ht hxy (Binary64.le_of_lt hyt) hnear).2

end

end Comparison

/-- The threshold of a rule is finite. -/
theorem NumericRule.isFinite_threshold {input : String} {rule : NumericRule}
    (h : NumericRule.parse input = .ok rule) : rule.threshold.isFinite = true := by
  unfold parse at h
  split at h
  · next parsed hparsed =>
    cases h
    unfold ofChars? at hparsed
    obtain ⟨x, hx, rfl⟩ := Option.map_eq_some_iff.1 hparsed
    exact (Option.filter_eq_some_iff.1 hx).2
  · cases h

/-- The field is for a number, and its rule says nothing or compares in one of the given ways. -/
def Criterion.AsksOnly (comparisons : List Comparison) (c : Criterion) : Prop :=
  c.kind = .number ∧
    (Text.allBlank c.rule = true ∨ (∃ e, NumericRule.parse c.rule = .error e) ∨
      ∃ rule, NumericRule.parse c.rule = .ok rule ∧ rule.comparison ∈ comparisons)

/-- The rule of a field that asks only in some ways compares in one of them, unless it is blank. -/
theorem Criterion.AsksOnly.comparison_mem {comparisons : List Comparison} {c : Criterion}
    {rule : NumericRule} (h : c.AsksOnly comparisons) (stated : ¬ Text.allBlank c.rule = true)
    (parses : NumericRule.parse c.rule = .ok rule) : rule.comparison ∈ comparisons := by
  obtain ⟨-, hblank | ⟨e, he⟩ | ⟨parsed, hparsed, hmem⟩⟩ := h
  · exact absurd hblank stated
  · rw [he] at parses
    cases parses
  · rw [parses, Except.ok.injEq] at hparsed
    rwa [hparsed]

end Hiring
