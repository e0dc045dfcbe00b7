import Hiring.Timestamp.Basic
import Mathlib.Data.Int.Order.Basic
import Mathlib.Data.List.Lex
import Mathlib.Order.Lattice

/-!
# The order of points in time

Points in time are compared by their components from the year down to the nanoseconds.  This is the
lexicographic order of the lists of components, so it is a linear order, in which only equal times
tie.

* `keyLe_iff_not_lt` — the comparison of components is the one of lists.
* `le_iff_le` — in the order that comes of this, `≤` is `Timestamp.le`.
-/

set_option autoImplicit false

namespace Hiring.Timestamp

theorem keyLe_iff_not_lt (xs ys : List Int) : keyLe xs ys = true ↔ ¬ ys < xs := by
  induction xs generalizing ys with
  | nil => simp [keyLe]
  | cons x xs ih =>
    cases ys with
    | nil => simp [keyLe]
    | cons y ys =>
      rw [keyLe, Bool.or_eq_true, Bool.and_eq_true, decide_eq_true_eq, decide_eq_true_eq, ih,
        List.not_lt, List.not_lt, List.cons_le_cons_iff]

instance : LinearOrder Timestamp := LinearOrder.lift' key fun _ _ => key_injective

/-- Earlier or at the same time. -/
theorem le_iff_le {a b : Timestamp} : a.le b = true ↔ a ≤ b :=
  (keyLe_iff_not_lt a.key b.key).trans not_lt

end Hiring.Timestamp
