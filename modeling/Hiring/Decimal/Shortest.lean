import Hiring.Decimal.Basic
import Hiring.Text.Ascii

/-!
# The shortest decimal number that reads back

A magnitude is written with the fewest digits that still denote it.  For one, two, … seventeen
digits the two decimal numbers next to the magnitude are tried, exactly, and the first grid on
which one of them reads back wins; of two that do the nearer one is taken.

* `readsBack` — a decimal number is read as the given magnitude.
* `Decimal.shortest` — digits and power of ten, without zeros at the end.

Should no grid have such a number, the exact expansion is taken, so the result always reads back.
-/

namespace Hiring.Decimal

open Binary64 Text

/-- What is done when two decimal numbers are equally near. -/
inductive Tie where
  /-- The greater one is taken. -/
  | up
  /-- The one with the even last digit is taken. -/
  | even
deriving Repr, DecidableEq

/-- The unsigned decimal number is read as the magnitude. -/
def readsBack (units digits : Nat) (exponent : Int) : Bool :=
  match nearest ⟨false, digits, exponent⟩ with
  | .finite _ u _ => u == units
  | _ => false

/-- The magnitude as a quotient of multiples of `10 ^ exponent`. -/
def inSteps (units : Nat) : Int → Nat × Nat
  | .ofNat e => (units, unitsPerOne * tenPow e)
  | .negSucc e => (units * tenPow (e + 1), unitsPerOne)

/-- Of the two integers next to a quotient, the nearer one. -/
def nearer (tie : Tie) (num den : Nat) : Nat :=
  let low := num / den
  if 2 * num < (2 * low + 1) * den then low
  else if (2 * low + 1) * den < 2 * num then low + 1
  else
    match tie with
    | .up => low + 1
    | .even => low + low % 2

theorem nearer_eq (tie : Tie) (num den : Nat) :
    nearer tie num den = num / den ∨ nearer tie num den = num / den + 1 := by
  simp only [nearer]
  split
  · exact .inl rfl
  · split
    · exact .inr rfl
    · cases tie
      · exact .inr rfl
      · simp only
        omega

/-- The multiple of `10 ^ exponent` that reads back as the magnitude, if one of its two neighbours
does: the nearer one if both do. -/
def onGrid? (tie : Tie) (units : Nat) (exponent : Int) : Option (Nat × Int) :=
  let (num, den) := inSteps units exponent
  let low := num / den
  match readsBack units low exponent, readsBack units (low + 1) exponent with
  | true, true => some (nearer tie num den, exponent)
  | true, false => some (low, exponent)
  | false, true => some (low + 1, exponent)
  | false, false => none

/-- The position of the leading decimal digit of a magnitude, from its position in binary. -/
def leadingPower (units : Nat) : Int :=
  let guess := (((units.log2 : Int) - unitPlaces) * 30103).fdiv 100000
  let (num, den) := inSteps units (guess + 1)
  if den ≤ num then guess + 1 else guess

/-- The exact expansion of a magnitude. -/
def exact (units : Nat) : Nat × Int := (units * Nat.pow 5 unitPlaces, -(unitPlaces : Int))

/-- Zeros at the end of the digits become part of the power of ten. -/
def dropZeros (d : Nat × Int) : Nat × Int :=
  let zeros := ((decimalDigits d.1).reverse.takeWhile (· = '0')).length
  if d.1 = 0 then d else (d.1 / tenPow zeros, d.2 + zeros)

/-- The fewest digits, and their power of ten, that are read as the magnitude. -/
def shortest (tie : Tie) (units : Nat) : Nat × Int :=
  let top := leadingPower units
  dropZeros (((List.range 17).findSome? fun (k : Nat) => onGrid? tie units (top - k)).getD (exact units))

/-- What is found on a grid reads back. -/
theorem readsBack_of_onGrid? {tie : Tie} {units : Nat} {exponent : Int} {d : Nat × Int}
    (h : onGrid? tie units exponent = some d) : readsBack units d.1 d.2 = true := by
  unfold onGrid? at h
  simp only at h
  split at h
  · rename_i h₁ h₂
    cases h
    rcases nearer_eq tie (inSteps units exponent).1 (inSteps units exponent).2 with e | e <;>
      simp [e, h₁, h₂]
  · cases h; assumption
  · cases h; assumption
  · cases h

end Hiring.Decimal
