import Hiring.Proofs.Text.LetterCase

/-!
# Lower-casing twice

The small letter of a capital could be a capital again, of another letter, and then a text that is
put in lower case would change when that is done once more.  Unicode has no such letter, but that is
a fact about its tables: the runs of capitals do not meet their own small letters, which are
scattered between them, and where a run steps over every other code point they only pass by each
other.

* `IsCapital` — the characters that have a small form.
* `not_isCapital_of_mem_lowerChar` — **no small letter is a capital**.
* `isBlank_of_mem_lowerChar` — no capital has a blank for its small letter.
* `lowerFrom_eq_self`, `lowercase_lowercase` — a text without capitals stays as it is, so
  **lower-casing twice is lower-casing once**.
* `trim_lowercase_trim` — a trimmed text is trimmed in lower case.
-/

set_option autoImplicit false

namespace Hiring.Text

variable {before cs rest : List Char} {c d : Char} {n : Nat}

/-! ## The runs of capitals -/

namespace Lowering

variable {r s : Lowering}

/-- The code point of the first small letter. -/
def firstSmall (r : Lowering) : Nat := (r.first + r.offset).toNat

/-- The code point of the last small letter. -/
def lastSmall (r : Lowering) : Nat := (r.last + r.offset).toNat

/-- The small letters of one run lie on one side of the capitals of another run, or both runs step
over every other code point and pass by each other. -/
def avoids (r s : Lowering) : Bool :=
  Nat.blt r.lastSmall s.first || Nat.blt s.last r.firstSmall ||
    s.step == 2 && (r.step == 2 || r.first == r.last) && (r.firstSmall + s.first) % 2 == 1

theorem covers_iff :
    r.covers n = true ↔ r.first ≤ n ∧ n ≤ r.last ∧ (n - r.first) % r.step = 0 := by
  simp only [covers, Bool.and_eq_true, decide_eq_true_eq, beq_iff_eq, and_assoc]

/-- A run that avoids another one has no small letter among its capitals. -/
theorem not_covers_of_avoids (hpositive : 0 ≤ (r.first : Int) + r.offset)
    (havoids : r.avoids s = true) (hn : r.covers n = true) :
    ¬ s.covers (n + r.offset).toNat = true := by
  obtain ⟨hfirst, hlast, hstep⟩ := covers_iff.1 hn
  rw [covers_iff]
  rintro ⟨hfirst', hlast', hstep'⟩
  simp only [avoids, firstSmall, lastSmall, Bool.or_eq_true, Bool.and_eq_true, beq_iff_eq,
    Nat.blt_eq] at havoids
  rcases havoids with (h | h) | ⟨⟨hs, hr⟩, hodd⟩
  · omega
  · omega
  · -- Both code points have a parity of their own, which is not the same.
    rw [hs] at hstep'
    rcases hr with hr | hr
    · rw [hr] at hstep
      omega
    · omega

end Lowering

/-- The dotted capital I, which has two characters for its small form. -/
def dottedCapitalI : Lowering := ⟨0x130, 0x130, 1, 0⟩

/-- No run of small letters meets a run of capitals. -/
theorem avoids_of_mem {r s : Lowering} (hr : r ∈ lowerings) (hs : s ∈ dottedCapitalI :: lowerings) :
    r.avoids s = true := by
  have hruns : (lowerings.all fun r => (dottedCapitalI :: lowerings).all r.avoids) = true := by
    decide +kernel
  exact List.all_eq_true.1 (List.all_eq_true.1 hruns r hr) s hs

/-- The small letters of a run are characters, between two of the blanks. -/
theorem smallLetters_of_mem {r : Lowering} (hr : r ∈ lowerings) :
    (0x61 ≤ r.first + r.offset ∧ r.last + r.offset < 0x85 ∨
      0xA1 ≤ r.first + r.offset ∧ r.last + r.offset < 0x1680 ∨
      0x1681 ≤ r.first + r.offset ∧ r.last + r.offset < 0x2000 ∨
      0x2060 ≤ r.first + r.offset ∧ r.last + r.offset < 0x3000 ∨
      0x3001 ≤ r.first + r.offset ∧ r.last + r.offset < 0xD800 ∨
      0xE000 ≤ r.first + r.offset ∧ r.last + r.offset < 0x110000) := by
  revert r
  decide +kernel

/-! ## Capitals -/

/-- The character has a small form of its own. -/
def IsCapital (c : Char) : Prop := ∃ r ∈ dottedCapitalI :: lowerings, r.covers c.toNat = true

instance (c : Char) : Decidable (IsCapital c) :=
  inferInstanceAs (Decidable (∃ r ∈ dottedCapitalI :: lowerings, r.covers c.toNat = true))

theorem isCapital_iff :
    IsCapital c ↔ c.toNat = 0x130 ∨ ∃ r ∈ lowerings, r.covers c.toNat = true := by
  have hdotted : dottedCapitalI.covers c.toNat = true ↔ c.toNat = 0x130 := by
    rw [Lowering.covers_iff]
    simp only [dottedCapitalI, Nat.mod_one, and_true]
    omega
  rw [IsCapital, List.exists_mem_cons_iff, hdotted]

theorem isCapital_sigma : IsCapital 'Σ' :=
  isCapital_iff.2 (.inr ⟨⟨0x3a3, 0x3ab, 1, 32⟩, by decide +kernel, by decide⟩)

/-- The capitals of ASCII are the only ones there. -/
theorem isCapital_of_ascii (hc : c.toNat < 0x80) :
    IsCapital c ↔ 65 ≤ c.toNat ∧ c.toNat ≤ 90 := by
  have hruns : ∀ r ∈ lowerings, r = ⟨0x41, 0x5a, 1, 32⟩ ∨ 0x80 ≤ r.first := by decide +kernel
  rw [isCapital_iff]
  constructor
  · rintro (h | ⟨r, hr, hcovers⟩)
    · omega
    · obtain ⟨hfirst, hlast, -⟩ := Lowering.covers_iff.1 hcovers
      rcases hruns r hr with rfl | hbeyond
      · exact ⟨hfirst, hlast⟩
      · omega
  · rintro ⟨hfirst, hlast⟩
    exact .inr ⟨_, .head _, Lowering.covers_iff.2 ⟨hfirst, hlast, Nat.mod_one _⟩⟩

theorem lowerChar_of_not_isCapital (h : ¬ IsCapital c) : lowerChar c = [c] := by
  unfold lowerChar
  split
  · next hc =>
    rw [isCapital_of_ascii hc] at h
    rcases toLower_cases c with hstays | ⟨hcapital, -⟩
    · rw [hstays]
    · exact absurd hcapital h
  · rw [isCapital_iff, not_or] at h
    rw [if_neg h.1]
    split
    · next r hr =>
      have hcovers := List.find?_some hr
      exact absurd ⟨r, List.mem_of_find?_eq_some hr, hcovers⟩ h.2
    · rfl

/-- The small letter of a capital in a run stands at the offset of the run. -/
theorem toNat_small {r : Lowering} (hr : r ∈ lowerings) (hn : r.covers n = true) :
    (Char.ofNat (n + r.offset).toNat).toNat = (n + r.offset).toNat := by
  obtain ⟨hfirst, hlast, -⟩ := Lowering.covers_iff.1 hn
  have hsmall := smallLetters_of_mem hr
  rw [Char.toNat_ofNat, if_pos]
  unfold Nat.isValidChar
  omega

/-- A small form is the dotted small i, a letter of a run, or the character itself where it has no
other. -/
theorem mem_lowerChar_cases (h : d ∈ lowerChar c) :
    (d = 'i' ∨ d = Char.ofNat 0x307) ∨
      (∃ r ∈ lowerings, r.covers c.toNat = true ∧ d.toNat = (c.toNat + r.offset).toNat) ∨
      (¬ IsCapital c ∧ d = c) := by
  by_cases hcapital : IsCapital c
  · unfold lowerChar at h
    split at h
    · next hascii =>
      have hletter := (isCapital_of_ascii hascii).1 hcapital
      refine .inr (.inl ⟨_, .head _, Lowering.covers_iff.2 ⟨hletter.1, hletter.2, Nat.mod_one _⟩, ?_⟩)
      rw [List.mem_singleton.1 h, toNat_toLower hletter]
      rfl
    · split at h
      · exact .inl (by simpa using h)
      · next hdotted =>
        split at h
        · next r hr =>
          have hmem := List.mem_of_find?_eq_some hr
          have hcovers := List.find?_some hr
          rw [List.mem_singleton.1 h]
          exact .inr (.inl ⟨r, hmem, hcovers, toNat_small hmem hcovers⟩)
        · next hnone =>
          obtain ⟨r, hr, hcovers⟩ := (isCapital_iff.1 hcapital).resolve_left hdotted
          exact absurd hcovers (List.find?_eq_none.1 hnone r hr)
  · rw [lowerChar_of_not_isCapital hcapital, List.mem_singleton] at h
    exact .inr (.inr ⟨hcapital, h⟩)

/-- **No small letter is a capital.** -/
theorem not_isCapital_of_mem_lowerChar (h : d ∈ lowerChar c) : ¬ IsCapital d := by
  rcases mem_lowerChar_cases h with (rfl | rfl) | ⟨r, hr, hcovers, hd⟩ | ⟨hc, rfl⟩
  · decide +kernel
  · decide +kernel
  · rintro ⟨s, hs, hcovers'⟩
    have hsmall := smallLetters_of_mem hr
    rw [hd] at hcovers'
    exact Lowering.not_covers_of_avoids (by omega) (avoids_of_mem hr hs) hcovers hcovers'
  · exact hc

/-- No capital has a blank for its small letter. -/
theorem isBlank_of_mem_lowerChar (hc : isBlank c = false) (h : d ∈ lowerChar c) :
    isBlank d = false := by
  rcases mem_lowerChar_cases h with (rfl | rfl) | ⟨r, hr, hcovers, hd⟩ | ⟨-, rfl⟩
  · decide
  · decide
  · have hsmall := smallLetters_of_mem hr
    obtain ⟨hfirst, hlast, -⟩ := Lowering.covers_iff.1 hcovers
    simp only [isBlank, Bool.or_eq_false_iff, Bool.and_eq_false_iff, decide_eq_false_iff_not,
      beq_eq_false_iff_ne]
    omega
  · exact hc

/-! ## Texts -/

/-- The small form of a character between others. -/
def smallForm (before : List Char) (c : Char) (rest : List Char) : List Char :=
  if c = 'Σ' then [if endsWord before rest then 'ς' else 'σ'] else lowerChar c

theorem lowerFrom_cons (before : List Char) (c : Char) (rest : List Char) :
    lowerFrom before (c :: rest) = smallForm before c rest ++ lowerFrom (c :: before) rest := rfl

theorem not_isCapital_of_mem_smallForm (h : d ∈ smallForm before c rest) : ¬ IsCapital d := by
  unfold smallForm at h
  split at h
  · rw [List.mem_singleton] at h
    subst h
    split <;> decide +kernel
  · exact not_isCapital_of_mem_lowerChar h

theorem isBlank_of_mem_smallForm (hc : isBlank c = false) (h : d ∈ smallForm before c rest) :
    isBlank d = false := by
  unfold smallForm at h
  split at h
  · rw [List.mem_singleton] at h
    subst h
    split <;> decide
  · exact isBlank_of_mem_lowerChar hc h

theorem not_isCapital_of_mem_lowerFrom (h : d ∈ lowerFrom before cs) : ¬ IsCapital d := by
  induction cs generalizing before with
  | nil => cases h
  | cons c rest ih =>
    rw [lowerFrom_cons, List.mem_append] at h
    exact h.elim not_isCapital_of_mem_smallForm ih

/-- A text without capitals stays as it is. -/
theorem lowerFrom_eq_self (h : ∀ c ∈ cs, ¬ IsCapital c) (before : List Char) :
    lowerFrom before cs = cs := by
  induction cs generalizing before with
  | nil => rfl
  | cons c rest ih =>
    have hc : ¬ IsCapital c := h c (.head _)
    have hsigma : c ≠ 'Σ' := by
      rintro rfl
      exact hc isCapital_sigma
    rw [lowerFrom_cons, smallForm, if_neg hsigma, lowerChar_of_not_isCapital hc,
      ih fun d hd => h d (.tail _ hd)]
    rfl

/-- **Lower-casing twice is lower-casing once.** -/
theorem lowercase_lowercase (s : String) : lowercase (lowercase s) = lowercase s := by
  rw [lowercase, lowercase, String.toList_ofList,
    lowerFrom_eq_self fun _ => not_isCapital_of_mem_lowerFrom]

/-! ## Blanks at the ends -/

theorem isBlank_of_mem_head?_lowerFrom (h : ∀ c ∈ cs.head?, isBlank c = false)
    (hd : d ∈ (lowerFrom before cs).head?) : isBlank d = false := by
  cases cs with
  | nil => cases hd
  | cons c rest =>
    have hsmall : smallForm before c rest ≠ [] := by
      unfold smallForm
      split
      · simp
      · exact lowerChar_ne_nil c
    rw [lowerFrom_cons, List.head?_append_of_ne_nil _ hsmall] at hd
    exact isBlank_of_mem_smallForm (h c rfl) (List.mem_of_mem_head? hd)

theorem isBlank_of_mem_getLast?_lowerFrom (h : ∀ c ∈ cs.getLast?, isBlank c = false)
    (hd : d ∈ (lowerFrom before cs).getLast?) : isBlank d = false := by
  induction cs generalizing before with
  | nil => cases hd
  | cons c rest ih =>
    rw [lowerFrom_cons] at hd
    cases rest with
    | nil =>
      rw [lowerFrom, List.append_nil] at hd
      exact isBlank_of_mem_smallForm (h c rfl) (List.mem_of_getLast? hd)
    | cons e more =>
      have hmore : lowerFrom (c :: before) (e :: more) ≠ [] := by simp [lowerFrom_eq_nil_iff]
      rw [List.getLast?_append_of_ne_nil _ hmore] at hd
      exact ih (by rwa [List.getLast?_cons_cons] at h) hd

/-- **A trimmed text is trimmed in lower case.** -/
theorem trim_lowercase_trim (s : String) : trim (lowercase (trim s)) = lowercase (trim s) := by
  rw [lowercase, trim, trim, String.toList_ofList, String.toList_ofList, trimChars_eq_self_of_ends]
  · exact fun d => isBlank_of_mem_head?_lowerFrom fun c => isBlank_of_mem_head?_trimChars
  · exact fun d => isBlank_of_mem_getLast?_lowerFrom fun c => isBlank_of_mem_getLast?_trimChars

end Hiring.Text
