import Hiring.Proofs.Answer.Reading
import Hiring.Proofs.Criterion.Bounds
import Hiring.Proofs.Criterion.RuleGrammar

/-!
# One rule, many spellings

A rule can be spelled with a sign or with a word, in small letters or capitals, with blanks or
without.  All of this is settled on the grammar: what stands behind an operator begins with a blank
or with a numeral, and neither makes a longer operator of it; and letters in the other case are
taken for the same operator and the same numeral.

* `Says.of_foldCase` — a rule in other letters is the same rule.
* `parse_spelled` — an operator in any spelling, and the text of a number, with blanks around both.
* `parse_text_iff` — the text of a rule is a spelling of it for the two comparisons that are
  phrased like an operator, and only for those.
* `spellings_agree` — **all spellings of a rule mean the same**.
-/

set_option autoImplicit false

namespace Hiring.NumericRule

open Text
open Binary64 (Numeral)

variable {cs cs' word : List Char} {c : Comparison} {rest : List Char} {t : Binary64}
  {rule : NumericRule}

/-! ## Letters in the other case -/

theorem Begins.of_foldCase (h : Begins cs) (hcase : foldCase cs' = foldCase cs) : Begins cs' := by
  obtain ⟨c, word, listed, op, rest, rfl, spelled⟩ := h
  obtain ⟨op', rest', rfl, hop, -⟩ := exists_append_of_foldCase hcase
  exact ⟨c, word, listed, op', rest', rfl, hop.trans spelled⟩

theorem Opens.of_foldCase (h : Opens cs c rest) (hcase : foldCase cs' = foldCase cs) :
    ∃ rest', Opens cs' c rest' ∧ foldCase rest' = foldCase rest := by
  obtain ⟨listed, rfl, spelled, longest⟩ := h
  obtain ⟨op', rest', rfl, hop, hrest⟩ := exists_append_of_foldCase hcase
  refine ⟨rest', .intro listed rfl (hop.trans spelled) fun hshort hhead => ?_, hrest⟩
  obtain ⟨more, rfl⟩ := List.head?_eq_some_iff.1 hhead
  obtain ⟨d, more', rfl, hd, -⟩ := exists_cons_of_foldCase hrest.symm
  rw [eq_of_toLower_eq (by decide) hd] at longest
  exact longest hshort rfl

/-- **A rule in other letters is the same rule.** -/
theorem Says.of_foldCase (h : Says cs rule) (hcase : foldCase cs' = foldCase cs) :
    Says cs' rule := by
  cases h with
  | compares opens numeral finite =>
    obtain ⟨rest', opens', hrest⟩ := opens.of_foldCase hcase
    refine .compares opens' (numeral.of_foldCase ?_) finite
    rw [← trimChars_foldCase, ← trimChars_foldCase, hrest]
  | equals bare numeral finite =>
    exact .equals (fun h => bare (h.of_foldCase hcase.symm)) (numeral.of_foldCase hcase) finite

theorem says_iff_of_foldCase (hcase : foldCase cs' = foldCase cs) : Says cs' rule ↔ Says cs rule :=
  ⟨fun h => h.of_foldCase hcase.symm, fun h => h.of_foldCase hcase⟩

/-! ## Blanks -/

theorem numeral_chars (t : Binary64) : Numeral t.chars t := by
  have h := Binary64.ofText?_text t
  rw [Binary64.ofText?, Binary64.text, String.toList_ofList] at h
  exact Binary64.ofChars?_eq_some_iff.1 h

theorem chars_ne_nil (t : Binary64) : t.chars ≠ [] := by
  obtain ⟨c, rest, h, -⟩ := (numeral_chars t).exists_cons
  simp [h]

/-- The text of a number ends a longer text without a blank. -/
theorem isBlank_getLast? (before : List Char) (t : Binary64) :
    ∀ d ∈ (before ++ t.chars).getLast?, isBlank d = false := by
  intro d hd
  rw [List.getLast?_append_of_ne_nil _ (chars_ne_nil t)] at hd
  exact Binary64.isBlank_of_mem_chars (List.mem_of_getLast? hd)

theorem Begins.isBlank_head? (h : Begins cs) : ∀ d ∈ cs.head?, isBlank d = false := by
  obtain ⟨d, more, rfl, hd⟩ := h.exists_cons
  rintro _ ⟨⟩
  rw [← isBlank_toLower]
  simp only [openers, List.mem_cons, List.not_mem_nil, or_false] at hd
  rcases hd with hd | hd | hd | hd <;> rw [hd] <;> rfl

/-! ## Operators in front of the text of a number -/

/-- No blank and no numeral makes an operator longer. -/
theorem head?_ne_equals {blanks : List Char} (hblanks : ∀ d ∈ blanks, isBlank d = true) :
    (blanks ++ t.chars).head? ≠ some '=' := by
  cases blanks with
  | cons d blanks =>
    rintro ⟨⟩
    cases hblanks '=' (.head _)
  | nil =>
    obtain ⟨d, more, hcons, hd⟩ := (numeral_chars t).exists_cons
    rw [List.nil_append, hcons]
    rintro ⟨⟩
    revert hd
    decide

/-- An operator in any spelling says its comparison with the number behind it. -/
theorem says_spelled {op blanks : List Char} (finite : t.isFinite = true)
    (listed : word ∈ operators c) (spelled : foldCase op = foldCase word)
    (hblanks : ∀ d ∈ blanks, isBlank d = true) :
    Says (trimChars (op ++ (blanks ++ t.chars))) ⟨c, t⟩ := by
  have opens : Opens (op ++ (blanks ++ t.chars)) c (blanks ++ t.chars) :=
    .intro listed rfl spelled fun _ => head?_ne_equals hblanks
  have hends : trimChars (op ++ (blanks ++ t.chars)) = op ++ (blanks ++ t.chars) := by
    refine trimChars_eq_self_of_ends opens.begins.isBlank_head? ?_
    rw [← List.append_assoc]
    exact isBlank_getLast? _ t
  have hnumber : trimChars (blanks ++ t.chars) = t.chars := by
    have htrim : trimChars (blanks ++ t.chars ++ []) = trimChars t.chars :=
      trimChars_append hblanks (by simp)
    rwa [List.append_nil, trimChars_eq_self fun d => Binary64.isBlank_of_mem_chars] at htrim
  rw [hends]
  exact .compares opens (by rw [hnumber]; exact numeral_chars t) finite

section Padded

variable {w₁ w₂ w₃ : String} (h₁ : allBlank w₁ = true) (h₃ : allBlank w₃ = true)

include h₁ h₃

/-- **An operator in any spelling and the text of a number, blanks around both, say a rule.** -/
theorem parse_spelled {op : String} (finite : t.isFinite = true) (h₂ : allBlank w₂ = true)
    (listed : word ∈ operators c) (spelled : foldCase op.toList = foldCase word) :
    parse (w₁ ++ op ++ w₂ ++ t.text ++ w₃) = .ok ⟨c, t⟩ := by
  have hassoc : w₁ ++ op ++ w₂ ++ t.text ++ w₃ = w₁ ++ (op ++ (w₂ ++ t.text)) ++ w₃ := by
    simp only [String.append_assoc]
  rw [parse_eq_ok_iff, hassoc, trimChars_padded h₁ h₃, String.toList_append, String.toList_append,
    Binary64.text, String.toList_ofList]
  exact says_spelled finite listed spelled (blanks_of_allBlank h₂)

/-- The text of a number alone, with blanks around it, asks for equality. -/
theorem parse_bare (finite : t.isFinite = true) :
    parse (w₁ ++ t.text ++ w₃) = .ok ⟨.equalTo, t⟩ := by
  rw [parse_eq_ok_iff, trimChars_padded h₁ h₃, Binary64.text, String.toList_ofList,
    trimChars_eq_self fun d => Binary64.isBlank_of_mem_chars]
  exact .equals (fun h => h.not_numeral (numeral_chars t)) (numeral_chars t) finite

/-- **Neither case nor outer blanks count.** -/
theorem toOption_parse_padded {s s' : String} (hcase : foldCase s'.toList = foldCase s.toList) :
    (parse (w₁ ++ s' ++ w₃)).toOption = (parse s).toOption := by
  have hok (input : String) (rule : NumericRule) :
      (parse input).toOption = some rule ↔ Says (trimChars input.toList) rule := by
    rw [← parse_eq_ok_iff]
    cases parse input <;> simp [Except.toOption]
  refine Option.ext fun rule => ?_
  rw [hok, hok, trimChars_padded h₁ h₃]
  refine says_iff_of_foldCase ?_
  rw [← trimChars_foldCase, ← trimChars_foldCase, hcase]

end Padded

/-! ## The text of a rule -/

/-- What begins with another character than operators and numerals do is no rule. -/
theorem not_says_of_head {d : Char} {more : List Char} (hblank : isBlank d = false)
    (hoperator : d.toLower ∉ openers) (hnumeral : ¬ Numeral.Opener d) :
    ¬ Says (trimChars (d :: more)) rule := by
  obtain ⟨more', hmore⟩ := exists_trimChars_eq_cons hblank more
  rw [hmore]
  rintro (⟨opens, -, -⟩ | ⟨-, numeral, -⟩)
  · obtain ⟨e, more, heq, he⟩ := opens.begins.exists_cons
    obtain ⟨rfl, rfl⟩ := List.cons.inj heq
    exact hoperator he
  · obtain ⟨e, more, heq, he⟩ := numeral.exists_cons
    obtain ⟨rfl, rfl⟩ := List.cons.inj heq
    exact hnumeral he

theorem parse_text (finite : t.isFinite = true) (h : c = .atLeast ∨ c = .atMost) :
    parse (text ⟨c, t⟩) = .ok ⟨c, t⟩ := by
  have listed : (c.phrase ++ " ").toList ∈ operators c := by rcases h with rfl | rfl <;> decide
  have hspelled : parse ("" ++ (c.phrase ++ " ") ++ "" ++ t.text ++ "") = .ok ⟨c, t⟩ :=
    parse_spelled rfl rfl finite rfl listed rfl
  simpa [text] using hspelled

theorem parse_text_ne_ok (h : ¬ (c = .atLeast ∨ c = .atMost)) :
    parse (text ⟨c, t⟩) ≠ .ok rule := by
  obtain ⟨d, more, hphrase, hblank, hoperator, hnumeral⟩ : ∃ d more,
      c.phrase.toList = d :: more ∧ isBlank d = false ∧ d.toLower ∉ openers ∧
        ¬ Numeral.Opener d := by
    cases c with
    | atLeast => exact absurd (.inl rfl) h
    | atMost => exact absurd (.inr rfl) h
    | greaterThan => exact ⟨'l', _, rfl, by decide⟩
    | lessThan => exact ⟨'k', _, rfl, by decide⟩
    | equalTo => exact ⟨'s', _, rfl, by decide⟩
  rw [Ne, parse_eq_ok_iff, text, String.toList_append, String.toList_append, hphrase]
  exact not_says_of_head hblank hoperator hnumeral

/-- **The text of a rule says the rule again if it is phrased like an operator**, and no rule at all
if it is not. -/
theorem parse_text_iff :
    parse rule.text = .ok rule ↔
      rule.threshold.isFinite = true ∧
        (rule.comparison = .atLeast ∨ rule.comparison = .atMost) := by
  constructor
  · intro h
    exact ⟨isFinite_threshold h, Classical.not_not.1 fun hc => parse_text_ne_ok hc h⟩
  · rintro ⟨finite, hc⟩
    exact parse_text finite hc

/-! ## All of it -/

/-- **All spellings of a rule mean the same.**  Whatever operator stands for a comparison, in
whatever letters, and whatever blanks stand around it and around the text of a number, the text is
read as the comparison with that number; without an operator, as equality with it.  The text of a
rule is such a spelling where the comparison is "at least" or "at most".  And for every text,
whether it says a rule and which one does not depend on the case of its letters or on blanks around
it. -/
theorem spellings_agree (t : Binary64) (finite : t.isFinite = true) (w₁ w₂ w₃ : String)
    (h₁ : allBlank w₁ = true) (h₂ : allBlank w₂ = true) (h₃ : allBlank w₃ = true) :
    (∀ c, ∀ word ∈ operators c, ∀ op : String, foldCase op.toList = foldCase word →
      parse (w₁ ++ op ++ w₂ ++ t.text ++ w₃) = .ok ⟨c, t⟩) ∧
    parse (w₁ ++ t.text ++ w₃) = .ok ⟨.equalTo, t⟩ ∧
    (∀ rule, parse rule.text = .ok rule ↔
      rule.threshold.isFinite = true ∧
        (rule.comparison = .atLeast ∨ rule.comparison = .atMost)) ∧
    ∀ s s' : String, foldCase s'.toList = foldCase s.toList →
      (parse (w₁ ++ s' ++ w₃)).toOption = (parse s).toOption :=
  ⟨fun _ _ listed _ spelled => parse_spelled h₁ h₃ finite h₂ listed spelled,
    parse_bare h₁ h₃ finite, fun _ => parse_text_iff, fun _ _ => toOption_parse_padded h₁ h₃⟩

/-- With a word that begins like another one, blanks of several sorts and a zero with a sign; and
with a text that is no rule in either case of its letters. -/
theorem spellings_agree_negative :
    Binary64.text (.finite true 0 Binary64.fits_zero) = "-0" ∧
    parse ("\u00A0" ++ "MINImal " ++ "\t" ++ "-0" ++ "\u3000") =
      .ok ⟨.atLeast, .finite true 0 Binary64.fits_zero⟩ ∧
    parse ("\u00A0" ++ "-0" ++ "\u3000") = .ok ⟨.equalTo, .finite true 0 Binary64.fits_zero⟩ ∧
    parse "minimal -0" = .ok ⟨.atLeast, .finite true 0 Binary64.fits_zero⟩ ∧
    (parse ("\u00A0" ++ "MAX 1E2" ++ "\u3000")).toOption = (parse "max 1e2").toOption ∧
    (parse ("\u00A0" ++ "MIN INF" ++ "\u3000")).toOption = none := by
  have htext : Binary64.text (.finite true 0 Binary64.fits_zero) = "-0" := by decide +kernel
  obtain ⟨hspelled, hbare, hphrased, hcase⟩ :=
    spellings_agree (.finite true 0 Binary64.fits_zero) rfl "\u00A0" "\t" "\u3000" rfl rfl rfl
  rw [htext] at hspelled hbare
  have hword := hspelled .atLeast ['m', 'i', 'n', 'i', 'm', 'a', 'l', ' '] (by decide) "MINImal "
    (by decide)
  have hrule := (hphrased ⟨.atLeast, .finite true 0 Binary64.fits_zero⟩).2 ⟨rfl, .inl rfl⟩
  rw [text, htext] at hrule
  exact ⟨htext, hword, hbare, hrule, hcase "max 1e2" "MAX 1E2" (by decide),
    (hcase "min inf" "MIN INF" (by decide)).trans (by decide +kernel)⟩

end Hiring.NumericRule
