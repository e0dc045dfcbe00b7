import Hiring.Text.Blank
import Mathlib.Data.List.DropRight

/-!
# Trimming

A text without blanks at its ends is not changed by trimming (`Text.trim_eq_self`,
`Text.trimChars_eq_self_of_ends`), and trimming leaves such a text
(`Text.isBlank_of_mem_head?_trimChars`, `Text.isBlank_of_mem_getLast?_trimChars`), so that trimming
twice is trimming once (`Text.trim_trim`).  Blanks that are put around a text do not change what trimming
leaves of it (`Text.trimChars_append`), and nothing but blanks is lost (`Text.mem_trimChars_iff`).
-/

set_option autoImplicit false

namespace Hiring.Text

theorem trimEnd_eq_reverse (cs : List Char) : trimEnd cs = (trimStart cs.reverse).reverse := rfl

theorem trimEnd_eq_rdropWhile (cs : List Char) : trimEnd cs = cs.rdropWhile isBlank := rfl

/-- What is left after the blanks at the back are gone begins as before. -/
theorem trimStart_trimEnd_trimStart (cs : List Char) :
    trimStart (trimEnd (trimStart cs)) = trimEnd (trimStart cs) := by
  obtain ⟨rest, hrest⟩ : trimEnd (trimStart cs) <+: trimStart cs :=
    List.rdropWhile_prefix isBlank (trimStart cs)
  cases ht : trimEnd (trimStart cs) with
  | nil => rfl
  | cons c more =>
    rw [ht] at hrest
    exact List.dropWhile_cons_of_neg (by simp [trimStart_head hrest.symm])

theorem trimChars_trimChars (cs : List Char) : trimChars (trimChars cs) = trimChars cs := by
  rw [trimChars, trimChars, trimStart_trimEnd_trimStart]
  exact List.rdropWhile_idempotent isBlank (trimStart cs)

/-- **Trimming twice is trimming once.** -/
theorem trim_trim (s : String) : trim (trim s) = trim s := by
  simp only [trim, String.toList_ofList, trimChars_trimChars]

/-- A text without blanks at its ends is not changed by trimming. -/
theorem trimChars_eq_self_of_ends {cs : List Char} (hfirst : ∀ c ∈ cs.head?, isBlank c = false)
    (hlast : ∀ c ∈ cs.getLast?, isBlank c = false) : trimChars cs = cs := by
  have hstart : trimStart cs = cs := by
    cases cs with
    | nil => rfl
    | cons c rest => exact List.dropWhile_cons_of_neg (by simp [hfirst c rfl])
  rw [trimChars, hstart, trimEnd_eq_rdropWhile, List.rdropWhile_eq_self_iff]
  intro hne
  simp [hlast _ (List.getLast?_eq_some_getLast hne)]

theorem trimChars_eq_self {cs : List Char} (h : ∀ c ∈ cs, isBlank c = false) :
    trimChars cs = cs :=
  trimChars_eq_self_of_ends (fun c hc => h c (List.mem_of_mem_head? hc))
    (fun c hc => h c (List.mem_of_getLast? hc))

theorem trim_eq_self {s : String} (h : ∀ c ∈ s.toList, isBlank c = false) : trim s = s := by
  rw [trim, trimChars_eq_self h, String.ofList_toList]

/-- What trimming leaves does not begin with a blank. -/
theorem isBlank_of_mem_head?_trimChars {cs : List Char} {c : Char}
    (h : c ∈ (trimChars cs).head?) : isBlank c = false := by
  have hstart : trimStart (trimChars cs) = trimChars cs := trimStart_trimEnd_trimStart cs
  obtain ⟨rest, hrest⟩ := List.head?_eq_some_iff.1 h
  rw [hrest] at hstart
  exact trimStart_head hstart

/-- What trimming leaves does not end with a blank. -/
theorem isBlank_of_mem_getLast?_trimChars {cs : List Char} {c : Char}
    (h : c ∈ (trimChars cs).getLast?) : isBlank c = false := by
  obtain ⟨hne, rfl⟩ := List.mem_getLast?_eq_getLast h
  exact Bool.eq_false_iff.2 (List.rdropWhile_last_not isBlank (trimStart cs) hne)

/-! ## Blanks around a text -/

theorem trimEnd_append {cs blanks : List Char} (h : ∀ c ∈ blanks, isBlank c = true) :
    trimEnd (cs ++ blanks) = trimEnd cs := by
  have hreverse : ∀ c ∈ blanks.reverse, isBlank c = true := fun c hc => h c (List.mem_reverse.1 hc)
  rw [trimEnd, List.reverse_append, List.dropWhile_append_of_pos hreverse, trimEnd]

/-- **Blanks around a text do not count.** -/
theorem trimChars_append {cs blanks blanks' : List Char} (h : ∀ c ∈ blanks, isBlank c = true)
    (h' : ∀ c ∈ blanks', isBlank c = true) :
    trimChars (blanks ++ cs ++ blanks') = trimChars cs := by
  have hstart : trimStart (blanks ++ cs ++ blanks') = trimStart (cs ++ blanks') := by
    rw [List.append_assoc, trimStart, List.dropWhile_append_of_pos h, trimStart]
  rw [trimChars, trimChars, hstart, trimStart, List.dropWhile_append]
  split
  · next hblank =>
    have hnone : trimStart cs = [] := List.isEmpty_iff.1 hblank
    rw [hnone, List.dropWhile_eq_nil_iff.2 h']
  · exact trimEnd_append h'

theorem blanks_of_allBlank {s : String} (h : allBlank s = true) :
    ∀ c ∈ s.toList, isBlank c = true :=
  List.all_eq_true.1 h

/-- Blanks around a text do not count. -/
theorem trimChars_padded {w₁ w₂ : String} (h₁ : allBlank w₁ = true) (h₂ : allBlank w₂ = true)
    (s : String) : trimChars (w₁ ++ s ++ w₂).toList = trimChars s.toList := by
  rw [String.toList_append, String.toList_append]
  exact trimChars_append (blanks_of_allBlank h₁) (blanks_of_allBlank h₂)

/-! ## What is kept -/

theorem mem_trimStart_iff {c : Char} {cs : List Char} (hc : isBlank c = false) :
    c ∈ trimStart cs ↔ c ∈ cs := by
  refine ⟨fun h => (List.dropWhile_sublist isBlank).subset h, fun h => ?_⟩
  rw [← List.takeWhile_append_dropWhile (p := isBlank) (l := cs), List.mem_append] at h
  rcases h with h | h
  · have hblank := List.mem_takeWhile_imp h
    rw [hc] at hblank
    cases hblank
  · exact h

/-- Trimming drops blanks only. -/
theorem mem_trimChars_iff {c : Char} {cs : List Char} (hc : isBlank c = false) :
    c ∈ trimChars cs ↔ c ∈ cs := by
  rw [trimChars, trimEnd_eq_reverse, List.mem_reverse, mem_trimStart_iff hc, List.mem_reverse,
    mem_trimStart_iff hc]

/-- The first character is kept if it is not blank. -/
theorem exists_trimChars_eq_cons {c : Char} (hc : isBlank c = false) (rest : List Char) :
    ∃ more, trimChars (c :: rest) = c :: more := by
  have hstart : trimStart (c :: rest) = c :: rest := List.dropWhile_cons_of_neg (by simp [hc])
  obtain ⟨tail, htail⟩ : trimEnd (c :: rest) <+: c :: rest := List.rdropWhile_prefix isBlank _
  rw [trimChars, hstart]
  cases hend : trimEnd (c :: rest) with
  | nil =>
    have hblank := trimEnd_eq_nil_iff.1 hend c (.head _)
    rw [hc] at hblank
    cases hblank
  | cons d more =>
    rw [hend] at htail
    obtain ⟨rfl, -⟩ := List.cons.inj htail
    exact ⟨more, rfl⟩

end Hiring.Text
