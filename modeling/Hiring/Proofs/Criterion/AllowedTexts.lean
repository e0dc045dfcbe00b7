import Hiring.Proofs.Screening.Rejection
import Hiring.Proofs.Text.LetterCase
import Hiring.Proofs.Text.Pieces

/-!
# What an allow-list accepts

A rule is cut at its commas first, and its pieces are trimmed and put in lower case after that.  The
answer goes the same way, but is never cut.  So an answer with a comma in it is not on any list,
however the rule is written: the comma cannot be lost on the way, and no piece has one.

* `AllowList.Token`, `AllowList.Listed` — what a rule lists, said without the steps.
* `AllowList.mem_ofText_iff` — **the list holds what the rule lists**.
* `AllowList.Token.listed` — a token in other letters and with other blanks around it is listed.
* `Answer.comma_mem_toText_list` — where a list of answers has a comma in its text.
* `AllowList.checkText_exact` — **an allow-list accepts exactly what it lists**.
-/

set_option autoImplicit false

namespace Hiring

/-! ## Trimmed and in lower case -/

namespace Text

variable {s t : String}

theorem lowercase_trim_eq_empty_iff : lowercase (trim s) = "" ↔ allBlank s = true := by
  rw [allBlank_iff, ← String.toList_inj, ← String.toList_inj, lowercase, String.toList_ofList,
    String.toList_empty, lowerFrom_eq_nil_iff]

/-- No comma comes or goes. -/
theorem comma_mem_lowercase_trim : ',' ∈ (lowercase (trim s)).toList ↔ ',' ∈ s.toList := by
  rw [lowercase, String.toList_ofList, comma_mem_lowerFrom, trim, String.toList_ofList,
    mem_trimChars_iff rfl]

/-- Neither the case of ASCII letters nor blanks around the text matter. -/
theorem lowercase_trim_padded {w₁ w₂ : String} (h₁ : allBlank w₁ = true) (h₂ : allBlank w₂ = true)
    (hcase : foldCase s.toList = foldCase t.toList) :
    lowercase (trim (w₁ ++ s ++ w₂)) = lowercase (trim t) := by
  have hfold : foldCase (trimChars (w₁ ++ s ++ w₂).toList) = foldCase (trimChars t.toList) := by
    rw [trimChars_padded h₁ h₂, ← trimChars_foldCase, ← trimChars_foldCase, hcase]
  rw [lowercase, lowercase, trim, trim, String.toList_ofList, String.toList_ofList,
    lowerFrom_eq_of_foldCase hfold]

end Text

/-! ## The text of a list -/

/-- The text of a list has a comma between two answers, or in the text of one. -/
theorem Answer.comma_mem_toText_list {items : List Answer} :
    ',' ∈ (toText (.list items)).toList ↔
      2 ≤ items.length ∨ ∃ a ∈ items, ',' ∈ a.toText.toList := by
  rw [toText, texts_eq_map]
  cases items with
  | nil => simp
  | cons a more =>
    cases more with
    | nil => simp
    | cons b rest => simp [String.intercalate_cons_cons]

namespace AllowList

open Text

variable {rule w : String}

/-! ## What a rule lists -/

/-- A token of a rule: a part between two neighbouring commas that does not consist of blanks. -/
structure Token (rule token : String) : Prop where
  /-- The part reaches from comma to comma, or to an end of the rule. -/
  piece : IsPiece ',' rule.toList token.toList
  /-- Something is left of it after trimming. -/
  notBlank : allBlank token = false

/-- A text is listed if it is a token of the rule, trimmed and in lower case. -/
def Listed (rule w : String) : Prop := ∃ token, Token rule token ∧ lowercase (trim token) = w

theorem ofList_normal (token : String) :
    String.ofList (normal token.toList) = lowercase (trim token) := by
  rw [normal, lowercase, trim, String.toList_ofList]

theorem isEmpty_normal (token : String) : (normal token.toList).isEmpty = allBlank token := by
  rw [Bool.eq_iff_iff, List.isEmpty_iff, ← lowercase_trim_eq_empty_iff, ← ofList_normal,
    ← String.toList_inj, String.toList_ofList, String.toList_empty]

/-- **The list holds what the rule lists.** -/
theorem mem_ofText_iff : w ∈ ofText rule ↔ Listed rule w := by
  rw [ofText, List.mem_map]
  constructor
  · rintro ⟨small, hsmall, rfl⟩
    obtain ⟨hsmall, hkept⟩ := List.mem_filter.1 hsmall
    obtain ⟨piece, hpiece, rfl⟩ := List.mem_map.1 hsmall
    obtain ⟨token, rfl⟩ : ∃ token : String, token.toList = piece := ⟨_, String.toList_ofList⟩
    rw [isEmpty_normal, Bool.not_eq_true'] at hkept
    exact ⟨token, ⟨mem_pieces_iff.1 hpiece, hkept⟩, (ofList_normal token).symm⟩
  · rintro ⟨token, htoken, rfl⟩
    refine ⟨normal token.toList, List.mem_filter.2 ⟨?_, ?_⟩, ofList_normal token⟩
    · exact List.mem_map_of_mem (mem_pieces_iff.2 htoken.piece)
    · rw [isEmpty_normal, htoken.notBlank]
      rfl

/-- The list is empty exactly if nothing is listed. -/
theorem ofText_eq_nil_iff : ofText rule = [] ↔ ¬ ∃ w, Listed rule w := by
  simp only [← mem_ofText_iff, List.eq_nil_iff_forall_not_mem, not_exists]

/-- **A token in other letters and with other blanks around it is listed.** -/
theorem Token.listed {token s w₁ w₂ : String} (h : Token rule token)
    (hcase : foldCase s.toList = foldCase (trim token).toList) (h₁ : allBlank w₁ = true)
    (h₂ : allBlank w₂ = true) : Listed rule (lowercase (trim (w₁ ++ s ++ w₂))) := by
  refine ⟨token, h, ?_⟩
  rw [lowercase_trim_padded h₁ h₂ hcase, trim_trim]

/-- Blanks are not listed. -/
theorem Listed.notBlank {s : String} (h : Listed rule (lowercase (trim s))) :
    ¬ allBlank s = true := by
  obtain ⟨token, htoken, heq⟩ := h
  rw [← lowercase_trim_eq_empty_iff, ← heq, lowercase_trim_eq_empty_iff, htoken.notBlank]
  decide

/-- A text with a comma is not listed. -/
theorem Listed.comma_not_mem {s : String} (h : Listed rule (lowercase (trim s))) :
    ',' ∉ s.toList := by
  obtain ⟨token, htoken, heq⟩ := h
  rw [← comma_mem_lowercase_trim, ← heq, comma_mem_lowercase_trim]
  exact htoken.piece.not_mem

/-! ## Answers under a rule -/

theorem tagName_checkText_eq (a : Answer) (rule label : String) :
    (checkText a rule label).tagName =
      if ofText rule = [] then "needs_review"
      else if lowercase (trim a.toText) ∈ ofText rule then "passed" else "failed" := by
  simp only [checkText, List.isEmpty_iff, Criterion.accepts_iff]
  split
  · rfl
  · split <;> rfl

theorem needsReview_iff {a : Answer} {label : String} :
    (checkText a rule label).tagName = "needs_review" ↔ ¬ ∃ w, Listed rule w := by
  rw [tagName_checkText_eq, ← ofText_eq_nil_iff]
  split
  · next h => simp [h]
  · next h => split <;> simp [h]

theorem passed_iff {a : Answer} {label : String} :
    (checkText a rule label).tagName = "passed" ↔ Listed rule (lowercase (trim a.toText)) := by
  rw [tagName_checkText_eq, ← mem_ofText_iff]
  split
  · next h => simp [h]
  · split <;> simp [*]

theorem failed_iff {a : Answer} {label : String} :
    (checkText a rule label).tagName = "failed" ↔
      (∃ w, Listed rule w) ∧ ¬ Listed rule (lowercase (trim a.toText)) := by
  rw [tagName_checkText_eq, ← mem_ofText_iff, ← not_not (a := ∃ w, _), ← ofText_eq_nil_iff]
  split
  · next h => simp [h]
  · next h => split <;> simp [*]

/-- **An allow-list accepts exactly what it lists.**  An answer is left to a person if the rule
lists nothing; otherwise it passes if its text, trimmed and in lower case, is listed, and fails if
it is not.  So every token of the rule passes as an answer, with its ASCII letters in either case
and with any blanks around it; and no answer passes whose text says nothing but blanks or has a
comma in it, such as a list of two answers or more. -/
theorem checkText_exact (a : Answer) (rule label : String) :
    ((checkText a rule label).tagName = "needs_review" ↔ ¬ ∃ w, Listed rule w) ∧
    ((checkText a rule label).tagName = "passed" ↔ Listed rule (lowercase (trim a.toText))) ∧
    ((checkText a rule label).tagName = "failed" ↔
      (∃ w, Listed rule w) ∧ ¬ Listed rule (lowercase (trim a.toText))) ∧
    (∀ token, Token rule token → ∀ s w₁ w₂ : String,
      foldCase s.toList = foldCase (trim token).toList →
      allBlank w₁ = true → allBlank w₂ = true → a.toText = w₁ ++ s ++ w₂ →
      (checkText a rule label).tagName = "passed") ∧
    (allBlank a.toText = true ∨ ',' ∈ a.toText.toList →
      (checkText a rule label).tagName ≠ "passed") ∧
    ∀ items, a = .list items → 2 ≤ items.length →
      (checkText a rule label).tagName ≠ "passed" := by
  have hunlisted : allBlank a.toText = true ∨ ',' ∈ a.toText.toList →
      (checkText a rule label).tagName ≠ "passed" := by
    rintro h hpassed
    have hlisted := passed_iff.1 hpassed
    exact h.elim hlisted.notBlank hlisted.comma_not_mem
  refine ⟨needsReview_iff, passed_iff, failed_iff, ?_, hunlisted, ?_⟩
  · intro token htoken s w₁ w₂ hcase h₁ h₂ htext
    rw [passed_iff, htext]
    exact htoken.listed hcase h₁ h₂
  · rintro items rfl htwo
    exact hunlisted (.inr (Answer.comma_mem_toText_list.2 (.inl htwo)))

/-- A token with a sigma at the end of its last word, in other letters, with blanks around it and
alone in a list, passes; beside an empty answer in the same list it does not, and neither do the
blanks between two commas. -/
theorem checkText_exact_finalSigma :
    Token "S1, , Jalan ΣΑΣ" " Jalan ΣΑΣ" ∧
    (checkText (.list [.text "\u3000jALAN ΣΑΣ\t"]) "S1, , Jalan ΣΑΣ" "alamat").tagName = "passed" ∧
    Listed "S1, , Jalan ΣΑΣ" "jalan σας" ∧
    (checkText (.list [.text "Jalan ΣΑΣ", .null]) "S1, , Jalan ΣΑΣ" "alamat").tagName ≠ "passed" ∧
    (checkText (.text " ") "S1, , Jalan ΣΑΣ" "alamat").tagName ≠ "passed" := by
  have htoken : Token "S1, , Jalan ΣΑΣ" " Jalan ΣΑΣ" :=
    ⟨⟨"S1, ,".toList, [], by decide, by decide, by simp, by simp⟩, by decide⟩
  obtain ⟨-, hlisted, -, hpasses, -⟩ :=
    checkText_exact (.list [.text "\u3000jALAN ΣΑΣ\t"]) "S1, , Jalan ΣΑΣ" "alamat"
  obtain ⟨-, -, -, -, -, hlist⟩ :=
    checkText_exact (.list [.text "Jalan ΣΑΣ", .null]) "S1, , Jalan ΣΑΣ" "alamat"
  obtain ⟨-, -, -, -, hblank, -⟩ := checkText_exact (.text " ") "S1, , Jalan ΣΑΣ" "alamat"
  have hpassed := hpasses _ htoken "jALAN ΣΑΣ" "\u3000" "\t" (by decide) (by decide) (by decide)
    (by decide)
  have hsmall :
      lowercase (trim (Answer.list [.text "\u3000jALAN ΣΑΣ\t"]).toText) = "jalan σας" := by
    decide +kernel
  have hfound := hlisted.1 hpassed
  rw [hsmall] at hfound
  exact ⟨htoken, hpassed, hfound, hlist _ rfl (by decide), hblank (.inl (by decide))⟩

end AllowList

end Hiring
