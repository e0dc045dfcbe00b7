import Hiring.Decimal.Positional

/-!
# Comparisons with a tolerance

Two numbers that differ by less than a millionth count as equal, in every comparison.

* `Comparison` — at least, at most, more than, less than, equal to.
* `Comparison.Holds` — whether a comparison holds of a value and a threshold.
* `near` — the tolerance.
-/

namespace Hiring

/-- How a value is compared with a threshold. -/
inductive Comparison where
  | atLeast
  | atMost
  | greaterThan
  | lessThan
  | equalTo
deriving Repr, DecidableEq

namespace Comparison

/-- The number nearest to a millionth. -/
def tolerance : Binary64 := Decimal.nearest ⟨false, 1, -6⟩

/-- The numbers differ by less than the tolerance. -/
def near (value threshold : Binary64) : Prop := value.distance threshold < tolerance

instance (value threshold : Binary64) : Decidable (near value threshold) :=
  inferInstanceAs (Decidable (_ < _))

/-- The comparison holds of a value and a threshold: numbers that are near are equal. -/
def Holds : Comparison → Binary64 → Binary64 → Prop
  | .atLeast, value, threshold => threshold < value ∨ near value threshold
  | .atMost, value, threshold => value < threshold ∨ near value threshold
  | .greaterThan, value, threshold => threshold < value ∧ ¬ near value threshold
  | .lessThan, value, threshold => value < threshold ∧ ¬ near value threshold
  | .equalTo, value, threshold => near value threshold

instance (c : Comparison) (value threshold : Binary64) : Decidable (c.Holds value threshold) := by
  cases c <;> unfold Holds <;> infer_instance

/-- The comparison in the words of a message. -/
def phrase : Comparison → String
  | .atLeast => "minimal"
  | .greaterThan => "lebih dari"
  | .atMost => "maksimal"
  | .lessThan => "kurang dari"
  | .equalTo => "sama dengan"

theorem near_comm (value threshold : Binary64) : near value threshold ↔ near threshold value := by
  rw [near, near, Binary64.distance_comm]

end Comparison

end Hiring
