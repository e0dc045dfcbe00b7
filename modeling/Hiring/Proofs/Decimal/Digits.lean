import Hiring.Decimal.Basic
import Hiring.Text.Ascii
import Hiring.Text.Blank
import Mathlib.Algebra.Group.Nat.Defs
import Mathlib.Data.List.TakeWhile

/-!
# Digits

The digits of a number say the number (`Text.digitsValue_decimalDigits`), zeros around them do what
zeros do (`Text.digitsValue_append_zeros`, `Text.digitsValue_zeros_append`), and the digits at the
front of a text are taken up to what is no digit (`Text.takeWhile_isDigit`,
`Text.dropWhile_isDigit`).  Texts are compared character by character and know nothing of values;
with zeros in front, as long as the numbers fit in, the two orders are the same
(`Text.padded_lt_padded`).
-/

set_option autoImplicit false

namespace Hiring.Text

/-! ## Single digits -/

theorem isDigit_eq (c : Char) : isDigit c = c.isDigit := rfl

theorem toNat_of_isDigit {c : Char} (h : isDigit c = true) : 48 ≤ c.toNat ∧ c.toNat ≤ 57 := by
  rw [isDigit_eq, Char.isDigit_iff_toNat] at h
  exact h

theorem toNat_eq_of_isDigit {c : Char} (h : isDigit c = true) : c.toNat = 48 + digitValue c :=
  (Nat.add_sub_of_le (toNat_of_isDigit h).1).symm

/-- Digits come in the order of their values. -/
theorem lt_iff_digitValue_lt {c d : Char} (hc : isDigit c = true) (hd : isDigit d = true) :
    c < d ↔ digitValue c < digitValue d := by
  rw [Char.lt_def, UInt32.lt_iff_toNat_lt, Char.toNat_val, Char.toNat_val,
    toNat_eq_of_isDigit hc, toNat_eq_of_isDigit hd, Nat.add_lt_add_iff_left]

theorem eq_of_digitValue_eq {c d : Char} (hc : isDigit c = true) (hd : isDigit d = true)
    (h : digitValue c = digitValue d) : c = d := by
  rw [← Char.toNat_inj, toNat_eq_of_isDigit hc, toNat_eq_of_isDigit hd, h]

/-- A digit is neither a sign nor a letter. -/
theorem ne_of_isDigit {c d : Char} (hc : isDigit c = true) (hd : isDigit d = false) : c ≠ d := by
  rintro rfl
  rw [hc] at hd
  cases hd

theorem toLower_of_isDigit {c : Char} (h : isDigit c = true) : c.toLower = c := by
  refine dif_neg fun hupper => ?_
  have hle : 'A'.toNat ≤ c.toNat := UInt32.le_iff_toNat_le.1 hupper.1
  exact absurd (Nat.le_trans hle (toNat_of_isDigit h).2) (by decide)

theorem isBlank_of_isDigit {c : Char} (h : isDigit c = true) : isBlank c = false := by
  have hc := toNat_of_isDigit h
  simp only [isBlank, Bool.or_eq_false_iff, Bool.and_eq_false_iff, decide_eq_false_iff_not,
    beq_eq_false_iff_ne]
  omega

/-! ## The digits of a number -/

theorem digitsValue_eq (cs : List Char) : digitsValue cs = Nat.ofDigitChars 10 cs 0 := rfl

theorem digitsValue_decimalDigits (n : Nat) : digitsValue (decimalDigits n) = n :=
  Nat.ofDigitChars_toDigits (by decide) (by decide)

theorem decimalDigits_ne_nil (n : Nat) : decimalDigits n ≠ [] := Nat.toDigits_ne_nil

theorem isDigit_of_mem_decimalDigits {n : Nat} {c : Char} (h : c ∈ decimalDigits n) :
    isDigit c = true :=
  Nat.isDigit_of_mem_toDigits (by decide) (by decide) h

theorem head?_append_of_ne_nil {as : List Char} (h : as ≠ []) (bs : List Char) :
    (as ++ bs).head? = as.head? := by
  obtain ⟨a, as, rfl⟩ := List.exists_cons_of_ne_nil h
  rfl

theorem head?_digitChar_ne : ∀ n < 10, n ≠ 0 → [n.digitChar].head? ≠ some '0' := by decide

/-- The digits of a number do not start with a zero. -/
theorem head?_decimalDigits_ne {n : Nat} (h : n ≠ 0) : (decimalDigits n).head? ≠ some '0' := by
  induction n using Nat.strongRecOn with
  | ind n ih =>
    unfold decimalDigits at ih ⊢
    by_cases hlt : n < 10
    · rw [Nat.toDigits_of_lt_base hlt]
      exact head?_digitChar_ne n hlt h
    · rw [Nat.toDigits_of_base_le (by decide) (Nat.not_lt.1 hlt),
        head?_append_of_ne_nil Nat.toDigits_ne_nil]
      exact ih (n / 10) (by omega) (by omega)

/-! ## Zeros around digits -/

theorem isDigit_of_mem_zeros {k : Nat} {c : Char} (h : c ∈ List.replicate k '0') :
    isDigit c = true := by
  rw [List.eq_of_mem_replicate h]
  rfl

/-- Zeros behind the digits multiply. -/
theorem digitsValue_append_zeros (cs : List Char) (k : Nat) :
    digitsValue (cs ++ List.replicate k '0') = digitsValue cs * Decimal.tenPow k := by
  rw [digitsValue_eq, Nat.ofDigitChars_append, Nat.ofDigitChars_replicate_zero, Nat.mul_comm]
  rfl

/-- Zeros in front of the digits do not count. -/
theorem digitsValue_zeros_append (k : Nat) (cs : List Char) :
    digitsValue (List.replicate k '0' ++ cs) = digitsValue cs := by
  rw [digitsValue_eq, Nat.ofDigitChars_append, Nat.ofDigitChars_replicate_zero, Nat.mul_zero]
  rfl

theorem digitsValue_padded (width n : Nat) : digitsValue (padded width n) = n := by
  rw [padded, digitsValue_zeros_append, digitsValue_decimalDigits]

theorem isDigit_of_mem_padded {width n : Nat} {c : Char} (h : c ∈ padded width n) :
    isDigit c = true := by
  rcases List.mem_append.1 h with h | h
  · exact isDigit_of_mem_zeros h
  · exact isDigit_of_mem_decimalDigits h

theorem padded_ne_nil (width n : Nat) : padded width n ≠ [] := fun h =>
  decimalDigits_ne_nil n (List.append_eq_nil_iff.1 h).2

/-- A number with no more digits than are wanted is padded to exactly as many. -/
theorem length_padded {width n : Nat} (hwidth : 0 < width) (h : n < 10 ^ width) :
    (padded width n).length = width := by
  have hle : (decimalDigits n).length ≤ width :=
    (Nat.length_toDigits_le_iff (by decide) hwidth).2 h
  simp only [padded, List.length_append, List.length_replicate]
  omega

/-! ## Digits at the front of a text -/

theorem takeWhile_isDigit {ds rest : List Char} (hds : ∀ c ∈ ds, isDigit c = true)
    (hrest : ∀ c ∈ rest.head?, isDigit c = false) : (ds ++ rest).takeWhile isDigit = ds := by
  rw [List.takeWhile_append_of_pos hds]
  cases rest with
  | nil => simp
  | cons c rest => rw [List.takeWhile_cons_of_neg (by simp [hrest c rfl]), List.append_nil]

theorem dropWhile_isDigit {ds rest : List Char} (hds : ∀ c ∈ ds, isDigit c = true)
    (hrest : ∀ c ∈ rest.head?, isDigit c = false) : (ds ++ rest).dropWhile isDigit = rest := by
  rw [List.dropWhile_append_of_pos hds]
  cases rest with
  | nil => rfl
  | cons c rest => rw [List.dropWhile_cons_of_neg (by simp [hrest c rfl])]

theorem foldl_digitValue_lt {cs : List Char} (h : ∀ c ∈ cs, isDigit c = true) (n : Nat) :
    cs.foldl (fun n c => 10 * n + digitValue c) n < (n + 1) * 10 ^ cs.length := by
  induction cs generalizing n with
  | nil => simp
  | cons c cs ih =>
    have hc := toNat_of_isDigit (h c List.mem_cons_self)
    have hdigit : digitValue c ≤ 9 := Nat.sub_le_of_le_add hc.2
    have hnext : (10 * n + digitValue c + 1) * 10 ^ cs.length ≤ 10 * (n + 1) * 10 ^ cs.length :=
      Nat.mul_le_mul_right _ (by omega)
    calc (c :: cs).foldl (fun n c => 10 * n + digitValue c) n
        < (10 * n + digitValue c + 1) * 10 ^ cs.length :=
          ih (fun d hd => h d (List.mem_cons_of_mem _ hd)) _
      _ ≤ 10 * (n + 1) * 10 ^ cs.length := hnext
      _ = (n + 1) * 10 ^ (c :: cs).length := by
          rw [List.length_cons, Nat.pow_succ, Nat.mul_comm 10, Nat.mul_assoc, Nat.mul_comm 10]

/-- Some digits are less than the power of ten that has one place more. -/
theorem digitsValue_lt {cs : List Char} (h : ∀ c ∈ cs, isDigit c = true) :
    digitsValue cs < 10 ^ cs.length := by
  have hlt := foldl_digitValue_lt h 0
  rwa [Nat.zero_add, Nat.one_mul] at hlt

/-! ## Digits in order -/

theorem digitsValue_cons (c : Char) (cs : List Char) :
    digitsValue (c :: cs) = 10 ^ cs.length * digitValue c + digitsValue cs := by
  rw [digitsValue_eq, Nat.ofDigitChars_cons, Nat.ofDigitChars_eq_ofDigitChars_zero, Nat.mul_zero,
    Nat.zero_add]
  rfl

/-- Of as many digits, those with the smaller value come first as a text. -/
theorem lt_of_digitsValue_lt {as bs : List Char} (ha : ∀ c ∈ as, isDigit c = true)
    (hb : ∀ c ∈ bs, isDigit c = true) (hlength : as.length = bs.length)
    (h : digitsValue as < digitsValue bs) : as < bs := by
  induction as generalizing bs with
  | nil =>
    rw [List.length_nil, eq_comm, List.length_eq_zero_iff] at hlength
    rw [hlength] at h
    exact absurd h (Nat.lt_irrefl _)
  | cons a as ih =>
    cases bs with
    | nil => cases hlength
    | cons b bs =>
      rw [List.forall_mem_cons] at ha hb
      rw [List.length_cons, List.length_cons, Nat.add_right_cancel_iff] at hlength
      rw [digitsValue_cons, digitsValue_cons, hlength] at h
      have hrest : digitsValue bs < 10 ^ bs.length := digitsValue_lt hb.2
      have hfirst : digitValue a ≤ digitValue b := by
        by_contra hgt
        have hnext : 10 ^ bs.length * (digitValue b + 1) ≤ 10 ^ bs.length * digitValue a :=
          Nat.mul_le_mul_left _ (Nat.not_le.1 hgt)
        rw [Nat.mul_succ] at hnext
        omega
      rw [List.cons_lt_cons_iff]
      rcases Nat.lt_or_eq_of_le hfirst with hlt | heq
      · exact .inl ((lt_iff_digitValue_lt ha.1 hb.1).2 hlt)
      · rw [heq, Nat.add_lt_add_iff_left] at h
        exact .inr ⟨eq_of_digitValue_eq ha.1 hb.1 heq, ih ha.2 hb.2 hlength h⟩

/-- **Padded to one width, smaller numbers come first as texts.** -/
theorem padded_lt_padded {width m n : Nat} (hwidth : 0 < width) (hlt : m < n)
    (hn : n < 10 ^ width) : padded width m < padded width n := by
  refine lt_of_digitsValue_lt (fun _ => isDigit_of_mem_padded)
    (fun _ => isDigit_of_mem_padded) ?_ ?_
  · rw [length_padded hwidth hn, length_padded hwidth (Nat.lt_trans hlt hn)]
  · rw [digitsValue_padded, digitsValue_padded]
    exact hlt

end Hiring.Text
