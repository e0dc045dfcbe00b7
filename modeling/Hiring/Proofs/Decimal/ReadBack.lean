import Hiring.Proofs.Decimal.Digits
import Hiring.Proofs.Decimal.Value
import Hiring.Decimal.Positional

/-!
# The text of a number reads back

In messages, and wherever an answer becomes a text, a number stands as its shortest digits.  Read
as a numeral they give the number again, sign of zero included: the digits are searched for by
reading them back (`Decimal.nearest_shortest`), writing them out moves zeros only
(`Decimal.ofUnsigned?_positional`), and so nothing is lost on the way (`Binary64.ofText?_text`).
-/

set_option autoImplicit false

namespace Hiring

open Text

namespace Decimal

open Binary64

/-! ## The shortest digits read back -/

/-- Reading gives a magnitude if the value is rounded to it. -/
theorem readsBack_sub_iff {units digits p q : Nat} :
    readsBack units digits ((p : Int) - q) = true ↔
      Binary64.nearest (digits * tenPow p * unitsPerOne) (tenPow q) = units ∧ units < limit := by
  rw [readsBack, nearest_sub, ofQuotient]
  by_cases h : Binary64.nearest (digits * tenPow p * unitsPerOne) (tenPow q) < limit
  · rw [dif_pos h]
    simp only [beq_iff_eq]
    exact ⟨fun he => ⟨he, he ▸ h⟩, fun he => he.1⟩
  · rw [dif_neg h]
    simp only [Bool.false_eq_true, false_iff, not_and]
    rintro rfl
    exact h

/-- Digits that read back do so with either sign. -/
theorem nearest_of_readsBack {units digits : Nat} {exponent : Int} (fits : Fits units)
    (h : readsBack units digits exponent = true) (negative : Bool) :
    nearest ⟨negative, digits, exponent⟩ = .finite negative units fits := by
  obtain ⟨p, q, rfl⟩ := exists_sub exponent
  rw [nearest_sub, ofQuotient_eq_finite]
  exact (readsBack_sub_iff.1 h).1

theorem mul_fivePow_mul_twoPow (n k : Nat) :
    n * Nat.pow 5 k * tenPow 0 * twoPow k = n * tenPow k := by
  have hten : tenPow k = Nat.pow 5 k * twoPow k := Nat.mul_pow 5 2 k
  have hone : tenPow 0 = 1 := rfl
  rw [hten, hone, Nat.mul_one, Nat.mul_assoc]

theorem readsBack_exact {units : Nat} (fits : Fits units) :
    readsBack units (exact units).1 (exact units).2 = true := by
  have hplaces : (exact units).2 = (0 : Nat) - (unitPlaces : Int) := (Int.zero_sub _).symm
  have hunits : (exact units).1 * tenPow 0 * unitsPerOne = units * tenPow unitPlaces :=
    mul_fivePow_mul_twoPow units unitPlaces
  rw [hplaces, readsBack_sub_iff, hunits]
  exact ⟨nearest_of_fits fits (tenPow_pos _), fits.2⟩

/-- The zeros at the end of digits, taken off. -/
theorem exists_mul_tenPow (n : Nat) :
    ∃ m, n = m * tenPow ((decimalDigits n).reverse.takeWhile (· = '0')).length := by
  have hzeros : (decimalDigits n).reverse.takeWhile (· = '0') =
      List.replicate ((decimalDigits n).reverse.takeWhile (· = '0')).length '0' :=
    List.eq_replicate_iff.2 ⟨rfl, fun c hc => by simpa using List.mem_takeWhile_imp hc⟩
  have hsplit : (decimalDigits n) =
      ((decimalDigits n).reverse.dropWhile (· = '0')).reverse ++
        List.replicate ((decimalDigits n).reverse.takeWhile (· = '0')).length '0' := by
    rw [← List.reverse_inj, List.reverse_append, List.reverse_replicate, List.reverse_reverse,
      ← hzeros, List.takeWhile_append_dropWhile]
  refine ⟨digitsValue ((decimalDigits n).reverse.dropWhile (· = '0')).reverse, ?_⟩
  rw [← digitsValue_append_zeros, ← hsplit, digitsValue_decimalDigits]

theorem nearest_dropZeros (negative : Bool) (d : Nat × Int) :
    nearest ⟨negative, (dropZeros d).1, (dropZeros d).2⟩ = nearest ⟨negative, d.1, d.2⟩ := by
  unfold dropZeros
  split
  · rfl
  · obtain ⟨m, hm⟩ := exists_mul_tenPow d.1
    have hdiv : d.1 / tenPow ((decimalDigits d.1).reverse.takeWhile (· = '0')).length = m := by
      conv => lhs; lhs; rw [hm]
      exact Nat.mul_div_cancel _ (tenPow_pos _)
    simp only [hdiv]
    rw [← nearest_mul_tenPow, ← hm]

/-- **The digits that are chosen read back**, with either sign. -/
theorem nearest_shortest {units : Nat} (fits : Fits units) (tie : Tie) (negative : Bool) :
    nearest ⟨negative, (shortest tie units).1, (shortest tie units).2⟩ =
      .finite negative units fits := by
  rw [shortest, nearest_dropZeros]
  refine nearest_of_readsBack fits ?_ negative
  -- Digits are taken from a grid only after they were read back, and the last resort is exact.
  cases hf : (List.range 17).findSome? fun (k : Nat) => onGrid? tie units (leadingPower units - k)
    with
  | none => exact readsBack_exact fits
  | some d =>
    obtain ⟨k, -, hk⟩ := List.exists_of_findSome?_eq_some hf
    exact readsBack_of_onGrid? hk

/-! ## Writing digits out -/

/-- Digits alone are a whole number. -/
theorem ofUnsigned?_whole (negative : Bool) {ds : List Char} (hne : ds ≠ [])
    (hds : ∀ c ∈ ds, isDigit c = true) :
    ofUnsigned? negative ds = some ⟨negative, digitsValue ds, 0⟩ := by
  have htake : ds.takeWhile isDigit = ds := List.takeWhile_eq_self_iff.2 hds
  have hdrop : ds.dropWhile isDigit = [] := List.dropWhile_eq_nil_iff.2 hds
  simp [ofUnsigned?, htake, hdrop, hne, power?]

/-- Digits behind a point make the power of ten smaller. -/
theorem ofUnsigned?_point (negative : Bool) {ds fs : List Char} (hne : ds ≠ [])
    (hds : ∀ c ∈ ds, isDigit c = true) (hfs : ∀ c ∈ fs, isDigit c = true) :
    ofUnsigned? negative (ds ++ '.' :: fs) =
      some ⟨negative, digitsValue (ds ++ fs), -(fs.length : Int)⟩ := by
  have hpoint : ∀ c ∈ ('.' :: fs).head?, isDigit c = false := by simp [isDigit]
  have htake := takeWhile_isDigit hds hpoint
  have hdrop := dropWhile_isDigit hds hpoint
  have hftake : fs.takeWhile isDigit = fs := List.takeWhile_eq_self_iff.2 hfs
  have hfdrop : fs.dropWhile isDigit = [] := List.dropWhile_eq_nil_iff.2 hfs
  simp [ofUnsigned?, htake, hdrop, hftake, hfdrop, hne, power?]

/-- **Digits that are written out are read as the number that they stand for.** -/
theorem ofUnsigned?_positional (negative : Bool) (digits : Nat) (exponent : Int) :
    ∃ d, ofUnsigned? negative (positional digits exponent) = some d ∧
      d.nearest = nearest ⟨negative, digits, exponent⟩ := by
  unfold positional
  cases exponent with
  | ofNat e =>
    have hall : ∀ c ∈ decimalDigits digits ++ List.replicate e '0', isDigit c = true := by
      intro c hc
      rcases List.mem_append.1 hc with hc | hc
      · exact isDigit_of_mem_decimalDigits hc
      · exact isDigit_of_mem_zeros hc
    refine ⟨_, ofUnsigned?_whole negative (by simp [decimalDigits_ne_nil]) hall, ?_⟩
    rw [digitsValue_append_zeros, digitsValue_decimalDigits, nearest_mul_tenPow, Int.zero_add]
    rfl
  | negSucc e =>
    simp only
    split
    · next hplaces =>
      refine ⟨_, ofUnsigned?_point negative ?_
        (fun c hc => isDigit_of_mem_decimalDigits (List.mem_of_mem_take hc))
        (fun c hc => isDigit_of_mem_decimalDigits (List.mem_of_mem_drop hc)), ?_⟩
      · rw [Ne, List.take_eq_nil_iff, not_or]
        exact ⟨by omega, decimalDigits_ne_nil digits⟩
      · rw [List.take_append_drop, digitsValue_decimalDigits, List.length_drop]
        congr 2
        omega
    · next hplaces =>
      have hall : ∀ c ∈ List.replicate (e + 1 - (decimalDigits digits).length) '0' ++
          decimalDigits digits, isDigit c = true := by
        intro c hc
        rcases List.mem_append.1 hc with hc | hc
        · exact isDigit_of_mem_zeros hc
        · exact isDigit_of_mem_decimalDigits hc
      have hzero : ∀ c ∈ ['0'], isDigit c = true := by simp [isDigit]
      refine ⟨_, ofUnsigned?_point negative (List.cons_ne_nil _ _) hzero hall, ?_⟩
      rw [← List.append_assoc, ← List.replicate_one, List.replicate_append_replicate,
        digitsValue_zeros_append, digitsValue_decimalDigits, List.length_append,
        List.length_replicate]
      congr 2
      omega

/-- A number that is written out begins with a digit. -/
theorem exists_positional_eq_cons (digits : Nat) (exponent : Int) :
    ∃ c rest, positional digits exponent = c :: rest ∧ isDigit c = true := by
  obtain ⟨c, cs, hc⟩ := List.exists_cons_of_ne_nil (decimalDigits_ne_nil digits)
  have hdigit : isDigit c = true := isDigit_of_mem_decimalDigits (n := digits) (by simp [hc])
  unfold positional
  rw [hc]
  cases exponent with
  | ofNat e => exact ⟨c, _, rfl, hdigit⟩
  | negSucc e =>
    simp only
    split
    · next hplaces =>
      obtain ⟨k, hk⟩ : ∃ k, (c :: cs).length - (e + 1) = k + 1 :=
        ⟨_, (Nat.succ_pred (by omega)).symm⟩
      rw [hk]
      exact ⟨c, _, rfl, hdigit⟩
    · exact ⟨'0', _, rfl, rfl⟩

end Decimal

/-! ## The text of a number -/

namespace Binary64

theorem sameIgnoringCase_of_isDigit {c d : Char} {rest word : List Char} (hc : isDigit c = true)
    (hd : isDigit d.toLower = false) : sameIgnoringCase (c :: rest) (d :: word) = false := by
  rw [Bool.eq_false_iff, Ne, sameIgnoringCase_iff]
  intro h
  have hhead : c.toLower = d.toLower := (List.cons.inj h).1
  rw [toLower_of_isDigit hc] at hhead
  exact ne_of_isDigit hc hd hhead

theorem signed_signChars {c : Char} {rest : List Char} (negative : Bool) (hc : isDigit c = true) :
    signed (signChars negative ++ c :: rest) = (negative, c :: rest) := by
  cases negative with
  | true => rfl
  | false =>
    have hminus : c ≠ '-' := ne_of_isDigit hc rfl
    have hplus : c ≠ '+' := ne_of_isDigit hc rfl
    show signed (c :: rest) = _
    unfold signed
    split
    · next h => exact absurd (List.cons.inj h).1 hminus
    · next h => exact absurd (List.cons.inj h).1 hplus
    · rfl

/-- A sign and a numeral that begins with a digit are read apart. -/
theorem ofChars?_signChars {c : Char} {rest : List Char} (negative : Bool)
    (hc : isDigit c = true) :
    ofChars? (signChars negative ++ c :: rest) =
      (Decimal.ofUnsigned? negative (c :: rest)).map (·.nearest) := by
  have hinf : sameIgnoringCase (c :: rest) "inf".toList = false :=
    sameIgnoringCase_of_isDigit hc rfl
  have hinfinity : sameIgnoringCase (c :: rest) "infinity".toList = false :=
    sameIgnoringCase_of_isDigit hc rfl
  have hnan : sameIgnoringCase (c :: rest) "nan".toList = false :=
    sameIgnoringCase_of_isDigit hc rfl
  rw [ofChars?, signed_signChars negative hc]
  simp only [hinf, hinfinity, hnan, Bool.or_self, Bool.false_eq_true, if_false]

/-- The magnitude of a finite number, written out and read again. -/
theorem ofChars?_chars_finite (negative : Bool) {units : Nat} (fits : Fits units) :
    ofChars? (finite negative units fits).chars = some (.finite negative units fits) := by
  rw [chars]
  by_cases hzero : units = 0
  · subst hzero
    rw [if_pos rfl, ofChars?_signChars negative rfl,
      Decimal.ofUnsigned?_whole negative (by simp) (by simp [isDigit])]
    exact congrArg some (Decimal.nearest_zero negative 0)
  · rw [if_neg hzero]
    simp only
    obtain ⟨c, rest, hcons, hc⟩ := Decimal.exists_positional_eq_cons
      (Decimal.shortest .up units).1 (Decimal.shortest .up units).2
    obtain ⟨d, hd, hnearest⟩ := Decimal.ofUnsigned?_positional negative
      (Decimal.shortest .up units).1 (Decimal.shortest .up units).2
    rw [hcons] at hd ⊢
    rw [ofChars?_signChars negative hc, hd, Option.map_some, hnearest,
      Decimal.nearest_shortest fits]

/-- **The text of a number is read as the number**, also where it is infinite or no number. -/
theorem ofText?_text (x : Binary64) : ofText? x.text = some x := by
  rw [ofText?, text, String.toList_ofList]
  cases x with
  | nan => rfl
  | infinity negative => cases negative <;> rfl
  | finite negative units fits => exact ofChars?_chars_finite negative fits

end Binary64

end Hiring
