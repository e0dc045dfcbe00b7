import Hiring.Binary64.Rounding

/-!
# Numbers of scores and thresholds

The binary floating-point numbers of sixty-four bits, by their meaning: a signed whole number of
units, one of the two infinities, or no number at all.

* `Binary64` — the numbers; a magnitude that the format does not have cannot be written down.
* `Binary64.ofQuotient` — an exact quotient, rounded once.
* `x < y` — the order of the values; zero has two signs and one value, and what is no number is
  never smaller or greater.
* `Binary64.distance` — the absolute difference, rounded once.
-/

namespace Hiring

/-- A binary floating-point number of sixty-four bits. -/
inductive Binary64 where
  /-- No number. -/
  | nan
  /-- Beyond every finite number. -/
  | infinity (negative : Bool)
  /-- A sign and a magnitude in units of `2 ^ -1074`. -/
  | finite (negative : Bool) (units : Nat) (fits : Binary64.Fits units)
deriving DecidableEq

namespace Binary64

/-- Zero without a sign. -/
def zero : Binary64 := .finite false 0 fits_zero

instance : Inhabited Binary64 := ⟨zero⟩

/-- Neither infinite nor missing. -/
def isFinite : Binary64 → Bool
  | .finite .. => true
  | _ => false

/-- A quotient of units with a sign, rounded to the nearest number; what rounds to the limit or
beyond is infinite. -/
def ofQuotient (negative : Bool) (num den : Nat) : Binary64 :=
  if h : nearest num den < limit then .finite negative (nearest num den) (fits_nearest h)
  else .infinity negative

/-- The number nearest to an integer. -/
def ofInt (n : Int) : Binary64 := ofQuotient (decide (n < 0)) (n.natAbs * unitsPerOne) 1

/-- Integers up to `2 ^ 53` are numbers of the format. -/
theorem fits_of_le {n : Nat} (h : n ≤ twoPow 53) : Fits (n * unitsPerOne) := by
  refine ⟨ulp_dvd_mul_twoPow h, ?_⟩
  unfold limit unitsPerOne
  exact mul_twoPow_lt unitPlaces (lt_twoPow_of_le h (by decide))

/-! ## Order -/

/-- The value in units, with the infinities outside the range of the finite numbers; what is no
number has no value. -/
def value? : Binary64 → Option Int
  | .nan => none
  | .infinity negative => some (if negative then -limit else limit)
  | .finite negative units _ => some (if negative then -units else units)

/-- Holds if both are numbers and the value of the first is smaller. -/
protected def lt (x y : Binary64) : Bool :=
  match x.value?, y.value? with
  | some a, some b => a < b
  | _, _ => false

instance : LT Binary64 := ⟨fun x y => x.lt y = true⟩

instance (x y : Binary64) : Decidable (x < y) := inferInstanceAs (Decidable (x.lt y = true))

/-- The absolute difference of two numbers, rounded once.  Equal infinities have no difference. -/
def distance : Binary64 → Binary64 → Binary64
  | .finite n a _, .finite m b _ =>
    let x : Int := if n then -a else a
    let y : Int := if m then -b else b
    ofQuotient false (x - y).natAbs 1
  | .infinity n, .infinity m => if n = m then .nan else .infinity false
  | .nan, _ => .nan
  | _, .nan => .nan
  | _, _ => .infinity false

/-! ## Laws of order and distance -/

theorem isFinite_iff {x : Binary64} : x.isFinite = true ↔ ∃ n u h, x = .finite n u h := by
  cases x with
  | nan => simp [isFinite]
  | infinity n => simp [isFinite]
  | finite n u h => exact ⟨fun _ => ⟨n, u, h, rfl⟩, fun _ => rfl⟩

theorem lt_iff {x y : Binary64} :
    x < y ↔ ∃ a b, x.value? = some a ∧ y.value? = some b ∧ a < b := by
  change x.lt y = true ↔ _
  cases hx : x.value? <;> cases hy : y.value? <;> simp [Binary64.lt, hx, hy]

/-- Nothing is smaller than itself. -/
theorem not_lt_self (x : Binary64) : ¬ x < x := by
  rw [lt_iff]
  rintro ⟨a, b, ha, hb, hab⟩
  simp_all

/-- What is no number is not smaller than anything. -/
theorem not_nan_lt (x : Binary64) : ¬ nan < x := by
  rw [lt_iff]
  rintro ⟨a, b, ha, -, -⟩
  cases ha

/-- The distance is the same in both directions. -/
theorem distance_comm (x y : Binary64) : x.distance y = y.distance x := by
  cases x <;> cases y <;> simp only [distance, eq_comm]
  rw [← Int.natAbs_neg, Int.neg_sub]

/-- Rounding a quotient gives a number, if perhaps an infinite one. -/
theorem ofQuotient_ne_nan (negative : Bool) (num den : Nat) :
    ofQuotient negative num den ≠ .nan := by
  unfold ofQuotient
  split <;> simp

/-- A number that is rounded again stays what it is. -/
theorem ofQuotient_of_fits {negative : Bool} {units den : Nat} (h : Fits units) (hden : 0 < den) :
    ofQuotient negative (units * den) den = .finite negative units h := by
  have := nearest_of_fits h hden
  simp [ofQuotient, this, h.2]

/-- An integer up to `2 ^ 53` is not changed by rounding. -/
theorem ofInt_of_le {n : Int} (h : n.natAbs ≤ twoPow 53) :
    ofInt n = .finite (decide (n < 0)) (n.natAbs * unitsPerOne) (fits_of_le h) := by
  have h₁ : ofQuotient (decide (n < 0)) (n.natAbs * unitsPerOne * 1) 1 = _ :=
    ofQuotient_of_fits (fits_of_le h) Nat.one_pos
  rwa [Nat.mul_one] at h₁

end Binary64

end Hiring
