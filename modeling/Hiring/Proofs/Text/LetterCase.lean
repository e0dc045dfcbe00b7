import Hiring.Proofs.Decimal.Digits
import Hiring.Proofs.Text.Trimming
import Hiring.Text.Lowercase
import Mathlib

/-!
# Letter case

Operators and numerals are compared up to the case of ASCII letters, allow-lists in lower case by
the full rules of Unicode.  The two do not get in each other's way: the case of an ASCII letter is
gone after lower-casing, also where a capital sigma beside it asks whether its word ends there.

* `eq_of_toLower_eq` — what is no ASCII letter has to match exactly.
* `exists_append_of_foldCase` — a text that matches two texts in a row is cut where they meet.
* `trimChars_foldCase` — case and outer blanks have nothing to do with each other.
* `lowerFrom_foldCase` — **the case of ASCII letters is lost by lower-casing**, whatever stands
  around the text.
* `lowerFrom_eq_nil_iff`, `comma_mem_lowerFrom` — no text becomes empty, and commas neither come nor
  go.
-/

set_option autoImplicit false

namespace Hiring.Text

variable {a b x y cs before : List Char} {c d : Char}

/-! ## Single letters of ASCII -/

theorem isUpper_iff : c.isUpper = true ↔ 65 ≤ c.toNat ∧ c.toNat ≤ 90 := by
  simp [Char.isUpper, UInt32.le_iff_toNat_le]

/-- A capital of ASCII is moved up by thirty-two. -/
theorem toNat_toLower (h : 65 ≤ c.toNat ∧ c.toNat ≤ 90) : c.toLower.toNat = c.toNat + 32 := by
  rw [Char.toLower_eq_of_isUpper (isUpper_iff.2 h), Char.toNat_ofNat, if_pos (.inl (by omega))]

/-- A capital of ASCII is moved up by thirty-two, and every other character stays. -/
theorem toLower_cases (c : Char) :
    c.toLower = c ∨ (65 ≤ c.toNat ∧ c.toNat ≤ 90) ∧ c.toLower.toNat = c.toNat + 32 := by
  by_cases h : c.isUpper = true
  · exact .inr ⟨isUpper_iff.1 h, toNat_toLower (isUpper_iff.1 h)⟩
  · exact .inl (Char.toLower_eq_of_not_isUpper h)

/-- The letters of ASCII, in either case. -/
def IsLetter (c : Char) : Prop := (65 ≤ c.toNat ∧ c.toNat ≤ 90) ∨ (97 ≤ c.toNat ∧ c.toNat ≤ 122)

instance (c : Char) : Decidable (IsLetter c) := inferInstanceAs (Decidable (_ ∨ _))

/-- **What is no letter has to match exactly.** -/
theorem eq_of_toLower_eq (hd : ¬ IsLetter d) (h : c.toLower = d.toLower) : c = d := by
  have hstays : d.toLower = d := by
    rcases toLower_cases d with hd' | ⟨hd', -⟩
    · exact hd'
    · exact absurd (.inl hd') hd
  rw [hstays] at h
  rcases toLower_cases c with hc | ⟨hc, hsum⟩
  · exact hc.symm.trans h
  · rw [h] at hsum
    exact absurd (.inr (by omega)) hd

/-- Two characters become an `e`. -/
theorem eq_or_eq_of_toLower_eq (h : c.toLower = 'e') : c = 'e' ∨ c = 'E' := by
  rcases toLower_cases c with hc | ⟨-, hsum⟩
  · exact .inl (hc.symm.trans h)
  · rw [h] at hsum
    have hnat : c.toNat = 'E'.toNat := Nat.add_right_cancel hsum.symm
    exact .inr (Char.toNat_inj.1 hnat)

theorem not_isLetter_of_isDigit (h : isDigit c = true) : ¬ IsLetter c := by
  have hc := toNat_of_isDigit h
  unfold IsLetter
  omega

theorem isBlank_toLower (c : Char) : isBlank c.toLower = isBlank c := by
  rcases toLower_cases c with h | ⟨h, hsum⟩
  · rw [h]
  · have hcapital : isBlank c = false := by
      simp only [isBlank, Bool.or_eq_false_iff, Bool.and_eq_false_iff, decide_eq_false_iff_not,
        beq_eq_false_iff_ne]
      omega
    have hsmall : isBlank c.toLower = false := by
      simp only [isBlank, Bool.or_eq_false_iff, Bool.and_eq_false_iff, decide_eq_false_iff_not,
        beq_eq_false_iff_ne]
      omega
    rw [hcapital, hsmall]

/-! ## Texts up to the case of their letters -/

theorem foldCase_append (a b : List Char) : foldCase (a ++ b) = foldCase a ++ foldCase b :=
  List.map_append

/-- A text without letters has to match exactly. -/
theorem eq_of_foldCase_eq (hb : ∀ c ∈ b, ¬ IsLetter c) (h : foldCase a = foldCase b) : a = b := by
  induction b generalizing a with
  | nil => simpa [foldCase] using h
  | cons d b ih =>
    cases a with
    | nil => cases h
    | cons c a =>
      obtain ⟨hhead, htail⟩ := List.cons.inj h
      rw [eq_of_toLower_eq (hb d (.head _)) hhead, ih (fun e he => hb e (.tail _ he)) htail]

/-- A text that matches two texts in a row is cut where they meet. -/
theorem exists_append_of_foldCase (h : foldCase a = foldCase (x ++ y)) :
    ∃ x' y', a = x' ++ y' ∧ foldCase x' = foldCase x ∧ foldCase y' = foldCase y := by
  rw [foldCase_append] at h
  exact List.map_eq_append_iff.1 h

theorem exists_cons_of_foldCase (h : foldCase a = foldCase (d :: y)) :
    ∃ c y', a = c :: y' ∧ c.toLower = d.toLower ∧ foldCase y' = foldCase y :=
  List.map_eq_cons_iff.1 h

theorem trimStart_foldCase (cs : List Char) :
    trimStart (foldCase cs) = foldCase (trimStart cs) := by
  have hblank : isBlank ∘ Char.toLower = isBlank := funext isBlank_toLower
  rw [trimStart, foldCase, List.dropWhile_map, hblank]
  rfl

/-- Case and outer blanks have nothing to do with each other. -/
theorem trimChars_foldCase (cs : List Char) :
    trimChars (foldCase cs) = foldCase (trimChars cs) := by
  rw [trimChars, trimChars, trimEnd_eq_reverse, trimEnd_eq_reverse, trimStart_foldCase, foldCase,
    ← List.map_reverse]
  exact (congrArg List.reverse (trimStart_foldCase _)).trans List.map_reverse.symm

/-! ## Lower case -/

theorem lowerChar_toLower (c : Char) : lowerChar c.toLower = lowerChar c := by
  rcases toLower_cases c with h | ⟨h, hsum⟩
  · rw [h]
  · rw [lowerChar, if_pos (by omega), lowerChar, if_pos (by omega),
      Char.toLower_toLower_eq_toLower]

theorem isCased_toLower (c : Char) : isCased c.toLower = isCased c := by
  rcases toLower_cases c with h | ⟨h, hsum⟩
  · rw [h]
  · have hcapital : isCased c = true := inRanges_iff.2 ⟨(0x41, 0x5a), .head _, h⟩
    have hsmall : isCased c.toLower = true :=
      inRanges_iff.2 ⟨(0x61, 0x7a), .tail _ (.head _), by omega⟩
    rw [hcapital, hsmall]

/-- Letters of ASCII are not passed over. -/
theorem not_isCaseIgnorable_of_isLetter (h : IsLetter c) : isCaseIgnorable c = false := by
  have hranges : ∀ r ∈ caseIgnorableRanges,
      r.2 < 0x41 ∨ (0x5a < r.1 ∧ r.2 < 0x61) ∨ 0x7a < r.1 := by
    decide +kernel
  rw [Bool.eq_false_iff]
  intro hin
  obtain ⟨r, hr, hlow, hhigh⟩ := inRanges_iff.1 hin
  have hr := hranges r hr
  unfold IsLetter at h
  omega

theorem isCaseIgnorable_toLower (c : Char) : isCaseIgnorable c.toLower = isCaseIgnorable c := by
  rcases toLower_cases c with h | ⟨h, hsum⟩
  · rw [h]
  · rw [not_isCaseIgnorable_of_isLetter (.inl h),
      not_isCaseIgnorable_of_isLetter (.inr (by omega))]

theorem reachesCased_foldCase (cs : List Char) : reachesCased (foldCase cs) = reachesCased cs := by
  have hignored : isCaseIgnorable ∘ Char.toLower = isCaseIgnorable :=
    funext isCaseIgnorable_toLower
  rw [reachesCased, reachesCased, foldCase, List.dropWhile_map, hignored]
  cases cs.dropWhile isCaseIgnorable with
  | nil => rfl
  | cons c rest => exact isCased_toLower c

theorem toLower_eq_sigma_iff : c.toLower = 'Σ' ↔ c = 'Σ' := by
  constructor
  · intro h
    exact eq_of_toLower_eq (show ¬ IsLetter 'Σ' by decide) h
  · rintro rfl
    rfl

/-- **The case of ASCII letters is lost by lower-casing**, before and behind the characters too. -/
theorem lowerFrom_foldCase (before cs : List Char) :
    lowerFrom (foldCase before) (foldCase cs) = lowerFrom before cs := by
  induction cs generalizing before with
  | nil => rfl
  | cons c rest ih =>
    have hrest : lowerFrom (c.toLower :: foldCase before) (foldCase rest) =
        lowerFrom (c :: before) rest := ih (c :: before)
    have hword : endsWord (foldCase before) (foldCase rest) = endsWord before rest := by
      rw [endsWord, endsWord, reachesCased_foldCase, reachesCased_foldCase]
    show lowerFrom (foldCase before) (c.toLower :: foldCase rest) = _
    simp only [lowerFrom, toLower_eq_sigma_iff, lowerChar_toLower, hword, hrest]

theorem lowerFrom_eq_of_foldCase (h : foldCase a = foldCase b) :
    lowerFrom [] a = lowerFrom [] b := by
  rw [← lowerFrom_foldCase [] a, ← lowerFrom_foldCase [] b, h]

theorem lowerChar_ne_nil (c : Char) : lowerChar c ≠ [] := by
  unfold lowerChar
  split
  · simp
  · split
    · simp
    · split <;> simp

/-- No text becomes empty. -/
theorem lowerFrom_eq_nil_iff : lowerFrom before cs = [] ↔ cs = [] := by
  cases cs with
  | nil => exact ⟨fun _ => rfl, fun _ => rfl⟩
  | cons c rest =>
    simp only [lowerFrom, List.append_eq_nil_iff, reduceCtorEq, iff_false, not_and]
    intro h
    split at h
    · cases h
    · exact absurd h (lowerChar_ne_nil c)

/-- A number that is no code point stands for the null character. -/
theorem toNat_eq_of_ofNat_eq {n : Nat} (hc : c.toNat ≠ 0) (h : Char.ofNat n = c) :
    c.toNat = n := by
  subst h
  rw [Char.toNat_ofNat] at hc ⊢
  split at hc
  · next hn => rw [if_pos hn]
  · exact absurd rfl hc

/-- No capital has the comma for its small letter. -/
theorem comma_mem_lowerChar : ',' ∈ lowerChar c ↔ c = ',' := by
  have hruns : ∀ r ∈ lowerings, 0x2C < (r.first : Int) + r.offset := by decide +kernel
  unfold lowerChar
  split
  · rw [List.mem_singleton]
    constructor
    · exact fun h => eq_of_toLower_eq (by decide) h.symm
    · rintro rfl
      rfl
  · next hc =>
    have hne : c ≠ ',' := by
      rintro rfl
      exact hc (by decide)
    refine iff_of_false ?_ hne
    split
    · decide
    · split
      · next r hr =>
        have hcovers := List.find?_some hr
        simp only [Lowering.covers, Bool.and_eq_true, decide_eq_true_eq] at hcovers
        have hrun := hruns r (List.mem_of_find?_eq_some hr)
        rw [List.mem_singleton]
        intro h
        have hnat : 0x2C = (c.toNat + r.offset).toNat := toNat_eq_of_ofNat_eq (by decide) h.symm
        omega
      · exact fun h => hne (List.mem_singleton.1 h).symm

/-- **Commas neither come nor go.** -/
theorem comma_mem_lowerFrom : ',' ∈ lowerFrom before cs ↔ ',' ∈ cs := by
  induction cs generalizing before with
  | nil => simp [lowerFrom]
  | cons c rest ih =>
    simp only [lowerFrom, List.mem_append, ih, List.mem_cons]
    refine or_congr_left ?_
    split
    · next h =>
      subst h
      split <;> decide
    · rw [comma_mem_lowerChar]
      exact eq_comm

end Hiring.Text
