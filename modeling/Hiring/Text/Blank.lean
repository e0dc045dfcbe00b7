/-!
# Blank characters and trimming

Form fields, rules and answers arrive with stray blanks around them.  A blank is any character
with the Unicode property `White_Space`, so a no-break space or an ideographic space is one and a
zero-width space is not.

* `isBlank` — the property itself.
* `trim` — a text without the blanks at its two ends.
* `allBlank` — nothing is left after trimming (`allBlank_iff`).
-/

namespace Hiring.Text

/-- The twenty-five characters with the property `White_Space`. -/
def isBlank (c : Char) : Bool :=
  let n := c.toNat
  (9 ≤ n && n ≤ 13) || n == 0x20 || n == 0x85 || n == 0xA0 || n == 0x1680 ||
    (0x2000 ≤ n && n ≤ 0x200A) || n == 0x2028 || n == 0x2029 || n == 0x202F || n == 0x205F ||
    n == 0x3000

/-- The characters without the blanks at the front. -/
def trimStart (cs : List Char) : List Char := cs.dropWhile isBlank

/-- The characters without the blanks at the back. -/
def trimEnd (cs : List Char) : List Char := (cs.reverse.dropWhile isBlank).reverse

/-- The characters without the blanks at both ends. -/
def trimChars (cs : List Char) : List Char := trimEnd (trimStart cs)

/-- The text without the blanks at its two ends; blanks inside it stay. -/
def trim (s : String) : String := String.ofList (trimChars s.toList)

/-- Holds of a text that is empty or made of blanks only. -/
def allBlank (s : String) : Bool := s.toList.all isBlank

/-! ## What trimming leaves -/

theorem trimStart_eq_nil_iff {cs : List Char} : trimStart cs = [] ↔ ∀ c ∈ cs, isBlank c = true := by
  induction cs with
  | nil => simp [trimStart]
  | cons c cs ih =>
    simp only [trimStart] at ih
    by_cases h : isBlank c = true <;> simp [trimStart, h, ih]

theorem trimEnd_eq_nil_iff {cs : List Char} : trimEnd cs = [] ↔ ∀ c ∈ cs, isBlank c = true := by
  have h : trimStart cs.reverse = [] ↔ _ := trimStart_eq_nil_iff
  simp only [trimStart, List.mem_reverse] at h
  simp [trimEnd, h]

/-- The characters left after the front blanks are gone begin with a character that is not blank. -/
theorem trimStart_head {cs : List Char} {c : Char} {rest : List Char}
    (h : trimStart cs = c :: rest) : isBlank c = false := by
  induction cs with
  | nil => simp [trimStart] at h
  | cons d cs ih =>
    by_cases hd : isBlank d = true
    · exact ih (by simpa [trimStart, hd] using h)
    · simp only [trimStart, List.dropWhile_cons, hd, Bool.false_eq_true, if_false] at h
      simp_all

theorem trimChars_eq_nil_iff {cs : List Char} : trimChars cs = [] ↔ ∀ c ∈ cs, isBlank c = true := by
  rw [trimChars, trimEnd_eq_nil_iff]
  constructor
  · intro h
    cases hs : trimStart cs with
    | nil => exact trimStart_eq_nil_iff.1 hs
    | cons c rest => simp [trimStart_head hs, hs] at h
  · intro h
    simp [trimStart_eq_nil_iff.2 h]

/-- A text is blank exactly if trimming leaves nothing of it. -/
theorem allBlank_iff {s : String} : allBlank s = true ↔ trim s = "" := by
  have : trim s = "" ↔ trimChars s.toList = [] := by
    simp [trim, ← String.toList_inj]
  rw [this, trimChars_eq_nil_iff, allBlank, List.all_eq_true]

end Hiring.Text
