import Hiring.Json.Token
import Hiring.Json.Writer
import Hiring.Proofs.Binary64.Monotone
import Hiring.Proofs.Decimal.ReadBack
import Hiring.Proofs.Json.Scaling

/-!
# Numerals of documents read back

A number of a document is written in one of four ways: an integer by its digits, zero as `0.0`, a
number of middling size with a point, and any other with a power of ten.  The reader takes the
longest numeral at the front of a text, tells an integer by its form alone, and refuses a zero in
front of other digits.  So what is written has to have the right form, and what follows it must not
go on as a numeral.

The form is one thing and the value another.  A numeral that is written denotes the number, but the
reader rounds the digits and the power of ten on their own, and may end at a neighbour.

* `EndsNumeral` — text that does not go on as a numeral.
* `Numeral` — the parts of an unsigned numeral, with the proof that they are digits and that the
  whole part has no needless zero; `Numeral.numeral?_chars` reads the parts back.
* `pointed`, `withZeros`, `afterZeros` — where the point can stand among the digits of a number.
* `exists_numeral_withFraction`, `exists_numeral_withPower` — the two ways to write out digits are
  such numerals, and keep the value.
* `Number.reread`, `numeral?_number` — what a number that was written is read as, whatever follows.
* `Number.ReadsBack` — the number is read as itself; `readsBack_integer` and `readsBack_real` say
  that **integers do, and so do numbers of few digits and a small power of ten**.
-/

set_option autoImplicit false

namespace Hiring

namespace Json

open Text Binary64

/-! ## The parts of a numeral -/

/-- Text that does not go on as a numeral. -/
def EndsNumeral (rest : List Char) : Prop :=
  ∀ c ∈ rest.head?, isDigit c = false ∧ c ≠ '.' ∧ c ≠ 'e' ∧ c ≠ 'E'

theorem endsNumeral_nil : EndsNumeral [] := by
  intro c hc
  cases hc

theorem endsNumeral_cons {c : Char} {rest : List Char}
    (h : isDigit c = false ∧ c ≠ '.' ∧ c ≠ 'e' ∧ c ≠ 'E') : EndsNumeral (c :: rest) := by
  intro d hd
  cases hd
  exact h

/-- Digits are taken up to what is no digit. -/
theorem digits?_append {ds rest : List Char} (hne : ds ≠ []) (hds : ∀ c ∈ ds, isDigit c = true)
    (hrest : ∀ c ∈ rest.head?, isDigit c = false) : digits? (ds ++ rest) = some (ds, rest) := by
  have hempty : ds.isEmpty = false := by simpa using hne
  simp only [digits?, takeWhile_isDigit hds hrest, dropWhile_isDigit hds hrest, hempty,
    Bool.false_eq_true, if_false]

/-- A fraction as it is written: nothing, or a point and digits. -/
def fractionChars (fs : List Char) : List Char := if fs = [] then [] else '.' :: fs

/-- A power of ten as it is written: nothing, or a letter, a sign and digits. -/
def powerChars : Option Int → List Char
  | none => []
  | some p => 'e' :: (if p < 0 then '-' else '+') :: decimalDigits p.natAbs

/-- An unsigned numeral, taken apart. -/
structure Numeral where
  /-- The digits in front of the point. -/
  whole : List Char
  /-- The digits behind the point. -/
  fraction : List Char
  /-- The power of ten, if one is written. -/
  power : Option Int
  /-- A zero stands in front of the point only alone. -/
  isWhole : whole = ['0'] ∨ whole ≠ [] ∧ whole.head? ≠ some '0'
  isDigit_whole : ∀ c ∈ whole, isDigit c = true
  isDigit_fraction : ∀ c ∈ fraction, isDigit c = true

namespace Numeral

/-- The numeral as it is written. -/
def chars (n : Numeral) : List Char := n.whole ++ (fractionChars n.fraction ++ powerChars n.power)

/-- The decimal number that the numeral denotes, with a sign. -/
def value (n : Numeral) (negative : Bool) : Decimal :=
  ⟨negative, digitsValue (n.whole ++ n.fraction), n.power.getD 0 - n.fraction.length⟩

theorem whole_ne_nil (n : Numeral) : n.whole ≠ [] := by
  rcases n.isWhole with h | h
  · simp [h]
  · exact h.1

theorem wholePart?_append (n : Numeral) {rest : List Char}
    (hrest : ∀ c ∈ rest.head?, isDigit c = false) :
    wholePart? (n.whole ++ rest) = some (n.whole, rest) := by
  rw [wholePart?, digits?_append n.whole_ne_nil n.isDigit_whole hrest]
  split
  · next c cs after h =>
    have hwhole : n.whole = '0' :: c :: cs := by simpa using congrArg (·.map Prod.fst) h
    rcases n.isWhole with h | h
    · rw [hwhole] at h
      cases h
    · exact absurd (by rw [hwhole]; rfl) h.2
  · rfl

theorem fractionPart?_append (n : Numeral) {rest : List Char}
    (hrest : ∀ c ∈ rest.head?, isDigit c = false ∧ c ≠ '.') :
    fractionPart? (fractionChars n.fraction ++ rest) = some (n.fraction, rest) := by
  unfold fractionChars
  split
  · next h =>
    rw [h, List.nil_append]
    unfold fractionPart?
    split
    · exact absurd rfl (hrest '.' rfl).2
    · rfl
  · next h => exact digits?_append h n.isDigit_fraction fun c hc => (hrest c hc).1

theorem head?_powerChars_append (power : Option Int) {rest : List Char} (hrest : EndsNumeral rest) :
    ∀ c ∈ (powerChars power ++ rest).head?, isDigit c = false ∧ c ≠ '.' := by
  cases power with
  | none => exact fun c hc => ⟨(hrest c hc).1, (hrest c hc).2.1⟩
  | some p =>
    intro c hc
    cases hc
    decide

theorem head?_fractionChars_append (fs : List Char) {rest : List Char}
    (hrest : ∀ c ∈ rest.head?, isDigit c = false) :
    ∀ c ∈ (fractionChars fs ++ rest).head?, isDigit c = false := by
  unfold fractionChars
  split
  · exact hrest
  · intro c hc
    cases hc
    rfl

theorem powerPart?_append (power : Option Int) {rest : List Char} (hrest : EndsNumeral rest) :
    powerPart? (powerChars power ++ rest) = some (power, rest) := by
  cases power with
  | none =>
    cases rest with
    | nil => rfl
    | cons c rest =>
      have hc := (hrest c rfl).2.2
      simp [powerChars, powerPart?, hc.1, hc.2]
  | some p =>
    have hdigits := digits?_append (decimalDigits_ne_nil p.natAbs)
      (fun c => isDigit_of_mem_decimalDigits) fun c hc => (hrest c hc).1
    by_cases hp : p < 0
    · have hvalue : -(p.natAbs : Int) = p := by omega
      have hsigned : signed ('-' :: (decimalDigits p.natAbs ++ rest)) =
          (true, decimalDigits p.natAbs ++ rest) := rfl
      simp only [powerChars, powerPart?, hp, hsigned, hdigits, digitsValue_decimalDigits, hvalue,
        List.cons_append, decide_true, Bool.true_or, if_true]
    · have hvalue : (p.natAbs : Int) = p := by omega
      have hsigned : signed ('+' :: (decimalDigits p.natAbs ++ rest)) =
          (false, decimalDigits p.natAbs ++ rest) := rfl
      simp only [powerChars, powerPart?, hp, hsigned, hdigits, digitsValue_decimalDigits, hvalue,
        List.cons_append, decide_true, Bool.true_or, if_true, if_false, Bool.false_eq_true]

theorem minus_signChars {c : Char} {rest : List Char} (negative : Bool) (hc : isDigit c = true) :
    minus (signChars negative ++ c :: rest) = (negative, c :: rest) := by
  cases negative with
  | true => rfl
  | false =>
    show minus (c :: rest) = _
    unfold minus
    split
    · next h => exact absurd (List.cons.inj h).1 (ne_of_isDigit hc rfl)
    · rfl

/-- **A numeral is read by its parts**, up to where it ends. -/
theorem numeral?_chars (n : Numeral) (negative : Bool) {rest : List Char}
    (hrest : EndsNumeral rest) :
    numeral? (signChars negative ++ (n.chars ++ rest)) =
      some (numberOf negative n.whole n.fraction n.power, rest) := by
  have hpower := head?_powerChars_append n.power hrest
  have hwhole := n.wholePart?_append
    (head?_fractionChars_append n.fraction fun c hc => (hpower c hc).1)
  have hminus : minus (signChars negative ++ (n.chars ++ rest)) = (negative, n.chars ++ rest) := by
    obtain ⟨c, cs, hcs⟩ := List.exists_cons_of_ne_nil n.whole_ne_nil
    rw [chars, hcs]
    exact minus_signChars negative (n.isDigit_whole c (by simp [hcs]))
  have hchars : n.chars ++ rest =
      n.whole ++ (fractionChars n.fraction ++ (powerChars n.power ++ rest)) := by
    simp only [chars, List.append_assoc]
  rw [← hchars] at hwhole
  simp [numeral?, hminus, hwhole, n.fractionPart?_append hpower, powerPart?_append n.power hrest]

/-- With few digits and a small power, a numeral with a point or a power of ten is read as the
nearest floating-point number. -/
theorem numberOf_eq (n : Numeral) (negative : Bool) (hform : n.fraction ≠ [] ∨ n.power ≠ none)
    (hsmall : IsSmall (n.value negative)) :
    numberOf negative n.whole n.fraction n.power =
      Number.ofBinary64? (n.value negative).nearest := by
  have hreal : (n.fraction.isEmpty && n.power.isNone) = false := by
    rcases hform with h | h
    · simp [h]
    · simp [Option.isSome_iff_ne_none.2 h]
  have hkept : digitsValue (n.whole ++ n.fraction) ≤ greatestKept :=
    Nat.le_trans hsmall.digits (by decide)
  obtain ⟨hfront, hall⟩ := keepDigits_append hkept
  simp only [numberOf, hfront, hall, hreal, Bool.false_and, Bool.false_eq_true, if_false,
    List.length_nil, Nat.sub_zero, Int.natCast_zero, Int.add_zero]
  exact congrArg Number.ofBinary64? (scaled_eq_nearest hsmall)

end Numeral

/-! ## Digits written out -/

section Digits

variable {digits : Nat}

/-- The digits of a number with the point behind the first of them, or behind more. -/
def pointed (h : digits ≠ 0) {places : Nat} (hplaces : places ≠ 0) (power : Option Int) :
    Numeral where
  whole := (decimalDigits digits).take places
  fraction := (decimalDigits digits).drop places
  power := power
  isWhole := by
    refine .inr ⟨?_, ?_⟩
    · rw [Ne, List.take_eq_nil_iff, not_or]
      exact ⟨hplaces, decimalDigits_ne_nil digits⟩
    · rw [List.head?_take, if_neg hplaces]
      exact head?_decimalDigits_ne h
  isDigit_whole _ hc := isDigit_of_mem_decimalDigits (List.mem_of_mem_take hc)
  isDigit_fraction _ hc := isDigit_of_mem_decimalDigits (List.mem_of_mem_drop hc)

theorem value_pointed (h : digits ≠ 0) {places : Nat} (hplaces : places ≠ 0) (power : Option Int)
    (negative : Bool) : (pointed h hplaces power).value negative =
      ⟨negative, digits, power.getD 0 - ((decimalDigits digits).length - places : Nat)⟩ := by
  simp only [Numeral.value, pointed, List.take_append_drop, digitsValue_decimalDigits,
    List.length_drop]

/-- The digits of a number with zeros up to the point, and one behind it. -/
def withZeros (h : digits ≠ 0) (zeros : Nat) : Numeral where
  whole := decimalDigits digits ++ List.replicate zeros '0'
  fraction := ['0']
  power := none
  isWhole := by
    refine .inr ⟨by simp [decimalDigits_ne_nil], ?_⟩
    rw [head?_append_of_ne_nil (decimalDigits_ne_nil digits)]
    exact head?_decimalDigits_ne h
  isDigit_whole c hc := by
    rcases List.mem_append.1 hc with hc | hc
    · exact isDigit_of_mem_decimalDigits hc
    · exact isDigit_of_mem_zeros hc
  isDigit_fraction := by simp [isDigit]

theorem value_withZeros (h : digits ≠ 0) (zeros : Nat) (negative : Bool) :
    (withZeros h zeros).value negative =
      ⟨negative, digits * Decimal.tenPow (zeros + 1), -1⟩ := by
  have hzeros : decimalDigits digits ++ List.replicate zeros '0' ++ ['0'] =
      decimalDigits digits ++ List.replicate (zeros + 1) '0' := by
    rw [List.append_assoc, List.replicate_succ']
  simp only [Numeral.value, withZeros, hzeros, digitsValue_append_zeros, digitsValue_decimalDigits]
  rfl

/-- Zero, the point, and more zeros in front of the digits of a number. -/
def afterZeros (digits zeros : Nat) : Numeral where
  whole := ['0']
  fraction := List.replicate zeros '0' ++ decimalDigits digits
  power := none
  isWhole := .inl rfl
  isDigit_whole := by simp [isDigit]
  isDigit_fraction c hc := by
    rcases List.mem_append.1 hc with hc | hc
    · exact isDigit_of_mem_zeros hc
    · exact isDigit_of_mem_decimalDigits hc

theorem value_afterZeros (digits zeros : Nat) (negative : Bool) :
    (afterZeros digits zeros).value negative =
      ⟨negative, digits, -(zeros + (decimalDigits digits).length : Nat)⟩ := by
  have hzeros : ['0'] ++ (List.replicate zeros '0' ++ decimalDigits digits) =
      List.replicate (1 + zeros) '0' ++ decimalDigits digits := by
    rw [← List.append_assoc, ← List.replicate_one, List.replicate_append_replicate]
  simp only [Numeral.value, afterZeros, hzeros, digitsValue_zeros_append,
    digitsValue_decimalDigits, List.length_append, List.length_replicate, Option.getD_none,
    Int.zero_sub]

/-- **Digits with a point are a numeral of the same value.**  Zeros up to the point, and one behind
it, are among its digits. -/
theorem exists_numeral_withFraction (h : digits ≠ 0) (exponent : Int) :
    ∃ n : Numeral, n.chars = withFraction digits exponent ∧ n.fraction ≠ [] ∧ ∀ negative,
      n.value negative =
        ⟨negative, digits * Decimal.tenPow (exponent + 1).toNat, min exponent (-1)⟩ := by
  have hne := decimalDigits_ne_nil digits
  unfold withFraction
  cases exponent with
  | ofNat e =>
    have hplaces : min (Int.ofNat e) (-1) = -1 := by
      rw [Int.ofNat_eq_natCast]
      omega
    refine ⟨withZeros h e, ?_, List.cons_ne_nil _ _, fun negative => ?_⟩
    · simp [Numeral.chars, withZeros, fractionChars, powerChars]
    · rw [value_withZeros, hplaces]
      rfl
  | negSucc e =>
    have hdigits : digits * Decimal.tenPow (Int.negSucc e + 1).toNat = digits := by
      have hzero : (Int.negSucc e + 1).toNat = 0 := by omega
      rw [hzero]
      exact Nat.mul_one digits
    have hplaces : min (Int.negSucc e) (-1) = Int.negSucc e := by omega
    rw [hdigits, hplaces]
    simp only
    split
    · next hlength =>
      -- The point stands between two of the digits.
      have hwhole : (decimalDigits digits).length - (e + 1) ≠ 0 := by omega
      have hfraction :
          (decimalDigits digits).drop ((decimalDigits digits).length - (e + 1)) ≠ [] := by
        rw [Ne, List.drop_eq_nil_iff]
        omega
      refine ⟨pointed h hwhole none, ?_, hfraction, fun negative => ?_⟩
      · simp [Numeral.chars, pointed, fractionChars, powerChars, hfraction]
      · rw [value_pointed, Option.getD_none]
        congr 1
        omega
    · next hlength =>
      refine ⟨afterZeros digits (e + 1 - (decimalDigits digits).length), ?_, ?_, fun negative => ?_⟩
      · simp [Numeral.chars, afterZeros, fractionChars, powerChars, hne]
      · simp [afterZeros, hne]
      · rw [value_afterZeros]
        congr 1
        omega

/-- **Digits with a power of ten are a numeral of the same value.** -/
theorem exists_numeral_withPower (h : digits ≠ 0) (exponent : Int) :
    ∃ n : Numeral, n.chars = withPower digits exponent ∧ n.power ≠ none ∧ ∀ negative,
      n.value negative = ⟨negative, digits, exponent⟩ := by
  refine ⟨pointed h Nat.one_ne_zero (some (exponent + ((decimalDigits digits).length - 1 : Nat))),
    ?_, Option.some_ne_none _, fun negative => ?_⟩
  · simp only [withPower, Numeral.chars, pointed, fractionChars, powerChars, List.drop_eq_nil_iff]
    split
    · next hone => rw [List.take_of_length_le hone, List.nil_append]
    · rw [List.append_assoc]
  · rw [value_pointed, Option.getD_some]
    congr 1
    omega

end Digits

/-! ## Numbers -/

theorem shortest_digits_ne_zero {units : Nat} (fits : Fits units) (h : units ≠ 0)
    (tie : Decimal.Tie) : (Decimal.shortest tie units).1 ≠ 0 := by
  intro hzero
  have hread := Decimal.nearest_shortest fits tie false
  rw [hzero, Decimal.nearest_zero] at hread
  cases hread
  exact h rfl

/-- The shortest digits of a magnitude are few, also with the zeros that are written up to the
point and behind it, and no great power of ten divides them. -/
structure IsShort (units : Nat) : Prop where
  digits : (Decimal.shortest .even units).1 *
    Decimal.tenPow ((Decimal.shortest .even units).2 + 1).toNat ≤ twoPow 53
  exponent : -22 ≤ (Decimal.shortest .even units).2

theorem nearest_withFraction (negative : Bool) (digits : Nat) (exponent : Int) :
    Decimal.nearest ⟨negative, digits * Decimal.tenPow (exponent + 1).toNat, min exponent (-1)⟩ =
      Decimal.nearest ⟨negative, digits, exponent⟩ := by
  have hexponent : min exponent (-1) + ((exponent + 1).toNat : Nat) = exponent := by omega
  rw [Decimal.nearest_mul_tenPow, hexponent]

/-- Without the zeros there are not more digits, and a power of ten that is written is small. -/
theorem isSmall_of_digits {negative : Bool} {digits : Nat} {exponent : Int} (hne : digits ≠ 0)
    (hdigits : digits * Decimal.tenPow (exponent + 1).toNat ≤ twoPow 53)
    (hexponent : -22 ≤ exponent) : IsSmall ⟨negative, digits, exponent⟩ := by
  have hpos := Decimal.tenPow_pos (exponent + 1).toNat
  refine ⟨Nat.le_trans (Nat.le_mul_of_pos_right _ hpos) hdigits, ?_⟩
  show exponent.natAbs ≤ 22
  by_contra hlarge
  have hbig : 22 ≤ (exponent + 1).toNat := by omega
  have hpower : Decimal.tenPow 22 ≤ twoPow 53 :=
    calc Decimal.tenPow 22
        ≤ Decimal.tenPow (exponent + 1).toNat := Decimal.tenPow_le hbig
      _ ≤ digits * Decimal.tenPow (exponent + 1).toNat :=
          Nat.le_mul_of_pos_left _ (Nat.pos_of_ne_zero hne)
      _ ≤ twoPow 53 := hdigits
  exact absurd hpower (by decide)

/-- A magnitude is written as a numeral that is no integer and denotes it. -/
theorem exists_numeral_magnitude {units : Nat} (fits : Fits units) :
    ∃ n : Numeral, n.chars = (if units = 0 then ['0', '.', '0'] else magnitudeChars units) ∧
      (n.fraction ≠ [] ∨ n.power ≠ none) ∧ ∀ negative,
        (n.value negative).nearest = .finite negative units fits ∧
          (IsShort units → IsSmall (n.value negative)) := by
  split
  · next hzero =>
    subst hzero
    refine ⟨⟨['0'], ['0'], none, .inl rfl, by simp [isDigit], by simp [isDigit]⟩, rfl,
      .inl (by simp), fun negative => ⟨Decimal.nearest_zero negative _, fun _ => ⟨?_, ?_⟩⟩⟩
    · exact Nat.zero_le _
    · exact (by decide : (-1 : Int).natAbs ≤ 22)
  · next hne =>
    have hdigits := shortest_digits_ne_zero fits hne .even
    have hread := Decimal.nearest_shortest fits .even
    simp only [magnitudeChars]
    split
    · obtain ⟨n, hchars, hform, hvalue⟩ := exists_numeral_withFraction hdigits
        (Decimal.shortest .even units).2
      refine ⟨n, hchars, .inl hform, fun negative => ?_⟩
      rw [hvalue negative, nearest_withFraction]
      refine ⟨hread negative, fun hshort => ⟨hshort.digits, ?_⟩⟩
      have hexponent := hshort.exponent
      show (min (Decimal.shortest .even units).2 (-1)).natAbs ≤ 22
      omega
    · obtain ⟨n, hchars, hform, hvalue⟩ := exists_numeral_withPower hdigits
        (Decimal.shortest .even units).2
      refine ⟨n, hchars, .inr hform, fun negative => ?_⟩
      rw [hvalue negative]
      exact ⟨hread negative, fun hshort =>
        isSmall_of_digits hdigits hshort.digits hshort.exponent⟩

theorem ofInt?_of_inRange {n : Int} (h : leastInteger ≤ n ∧ n ≤ greatestInteger) :
    Number.ofInt? n = some (.integer n h) := dif_pos h

theorem ofBinary64?_of_isFinite {x : Binary64} (h : x.isFinite = true) :
    Number.ofBinary64? x = some (.real x h) := dif_pos h

/-- An integer is written by its digits. -/
def integerNumeral (n : Int) : Numeral where
  whole := decimalDigits n.natAbs
  fraction := []
  power := none
  isWhole := by
    by_cases h : n.natAbs = 0
    · rw [h]
      exact .inl rfl
    · exact .inr ⟨decimalDigits_ne_nil _, head?_decimalDigits_ne h⟩
  isDigit_whole _ := isDigit_of_mem_decimalDigits
  isDigit_fraction := by simp

theorem chars_integer (n : Int) (h : leastInteger ≤ n ∧ n ≤ greatestInteger) :
    (Number.integer n h).chars = signChars (decide (n < 0)) ++ (integerNumeral n).chars := by
  simp [Number.chars, integerChars, signChars, Numeral.chars, integerNumeral, fractionChars,
    powerChars]

theorem numberOf_integerNumeral {n : Int} (h : leastInteger ≤ n ∧ n ≤ greatestInteger) :
    numberOf (decide (n < 0)) (integerNumeral n).whole [] none = some (.integer n h) := by
  have hzero : (decide (n < 0) && n.natAbs == 0) = false := by
    by_cases hn : n < 0
    · have hne : n.natAbs ≠ 0 := by omega
      simp [hne]
    · simp [hn]
  have hvalue : (if decide (n < 0) = true then -(n.natAbs : Int) else n.natAbs) = n := by
    simp only [decide_eq_true_eq]
    split <;> omega
  have hkept : digitsValue (decimalDigits n.natAbs ++ []) ≤ greatestKept := by
    have hlow := h.1
    have hhigh := h.2
    rw [List.append_nil, digitsValue_decimalDigits]
    simp only [leastInteger, greatestInteger, greatestKept] at *
    omega
  have hfront := (keepDigits_append hkept).1
  rw [digitsValue_decimalDigits] at hfront
  simp only [numberOf, integerNumeral, hfront, hzero, hvalue, ofInt?_of_inRange h,
    List.isEmpty_nil, Option.isNone_none, Bool.and_self, Bool.not_false, if_true, Option.some_or]

/-- The numeral of a number, with its sign. -/
theorem exists_numeral_number (n : Number) :
    ∃ negative, ∃ m : Numeral, n.chars = signChars negative ++ m.chars := by
  cases n with
  | integer n h => exact ⟨decide (n < 0), integerNumeral n, chars_integer n h⟩
  | real x hfinite =>
    obtain ⟨negative, units, fits, rfl⟩ := isFinite_iff.1 hfinite
    obtain ⟨m, hchars, -⟩ := exists_numeral_magnitude fits
    refine ⟨negative, m, ?_⟩
    rw [hchars]
    rfl

/-- What the reader makes of a number as it is written. -/
def Number.reread (n : Number) : Option Number := (numeral? n.chars).bind (·.1)

theorem reread_eq {n : Number} {negative : Bool} {m : Numeral}
    (h : n.chars = signChars negative ++ m.chars) :
    n.reread = numberOf negative m.whole m.fraction m.power := by
  have hread := m.numeral?_chars negative endsNumeral_nil
  rw [List.append_nil] at hread
  rw [Number.reread, h, hread]
  rfl

/-- **A number that was written is read**, up to where it ends, whatever follows. -/
theorem numeral?_number (n : Number) {rest : List Char} (hrest : EndsNumeral rest) :
    numeral? (n.chars ++ rest) = some (n.reread, rest) := by
  obtain ⟨negative, m, hchars⟩ := exists_numeral_number n
  rw [reread_eq hchars, hchars, List.append_assoc, m.numeral?_chars negative hrest]

/-- The reader returns the number for its written form. -/
def Number.ReadsBack (n : Number) : Prop := n.reread = some n

instance (n : Number) : Decidable n.ReadsBack := inferInstanceAs (Decidable (_ = _))

/-- **Integers read back.** -/
theorem readsBack_integer (n : Int) (h : leastInteger ≤ n ∧ n ≤ greatestInteger) :
    (Number.integer n h).ReadsBack := by
  rw [Number.ReadsBack, reread_eq (chars_integer n h)]
  exact numberOf_integerNumeral h

/-- **Numbers of few digits and a small power of ten read back.** -/
theorem readsBack_real {negative : Bool} {units : Nat} {fits : Fits units} (hshort : IsShort units) :
    (Number.real (.finite negative units fits) rfl).ReadsBack := by
  obtain ⟨m, hchars, hform, hvalue⟩ := exists_numeral_magnitude fits
  obtain ⟨hnearest, hsmall⟩ := hvalue negative
  have hwritten : (Number.real (.finite negative units fits) rfl).chars =
      signChars negative ++ m.chars := by
    rw [hchars]
    rfl
  rw [Number.ReadsBack, reread_eq hwritten, m.numberOf_eq negative hform (hsmall hshort),
    hnearest]
  exact ofBinary64?_of_isFinite rfl

/-- Not all numbers read back.  The sixteen digits of this one lie halfway between two numbers of the
format, and are rounded before they are divided. -/
theorem exists_not_readsBack : ∃ n : Number, ¬ n.ReadsBack :=
  ⟨.real (Decimal.nearest ⟨false, 9591638040666675, -14⟩) (by decide +kernel), by decide +kernel⟩

/-- A number begins with a minus sign or a digit. -/
theorem exists_chars_eq_cons (n : Number) :
    ∃ c cs, n.chars = c :: cs ∧ (c = '-' ∨ isDigit c = true) := by
  obtain ⟨negative, m, hchars⟩ := exists_numeral_number n
  obtain ⟨c, cs, hcs⟩ := List.exists_cons_of_ne_nil m.whole_ne_nil
  have hc : isDigit c = true := m.isDigit_whole c (by simp [hcs])
  rw [hchars, Numeral.chars, hcs]
  cases negative with
  | true => exact ⟨'-', _, rfl, .inl rfl⟩
  | false => exact ⟨c, _, rfl, .inr hc⟩

end Json

end Hiring
