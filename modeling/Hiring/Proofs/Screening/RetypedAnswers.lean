import Hiring.Proofs.Criterion.Retyping
import Hiring.Proofs.Screening.Rejection
import Hiring.Proofs.Text.Pieces

/-!
# Retyped answers are judged as before

Screening retypes the answers and then evaluates them.  Apart from the words of the reasons that
makes no difference, with one exception: the answer to a field for a text that says nothing but
blanks is an answer before retyping, and the empty text after it.

* `Outcome.tagName` tells the kinds of outcomes apart; no outcome is a criterion that was passed
  over.
* `Criterion.checkAnswer_retyped` — an answer that is not lost is judged as before.
* `Criterion.OnlyBlanks` — the exception.
* `check?_retype` — **the kinds of all outcomes before and after**, in the exception too, and the
  status where there is none.
-/

set_option autoImplicit false

namespace Hiring

open Criterion (Kind)

/-! ## Kinds of outcomes -/

theorem Outcome.isFailure_iff_tagName {o : Outcome} :
    o.isFailure = true ↔ o.tagName = "failed" := by
  cases o <;> simp [isFailure, tagName]

theorem Criterion.violated_iff_tagName {answers : AnswerMap} {c : Criterion} :
    c.Violated answers ↔ (c.check? answers).map Outcome.tagName = some "failed" := by
  rw [← check?_isFailure, Option.map_eq_some_iff]
  simp only [Outcome.isFailure_iff_tagName]

/-- The kind of the outcome depends on the number that the answer says. -/
theorem tagName_checkNumber {a b : Answer} (h : a.number? = b.number?) (rule label : String) :
    (checkNumber a rule label).tagName = (checkNumber b rule label).tagName := by
  rw [checkNumber, checkNumber, h]
  cases b.number? with
  | none => rfl
  | some value =>
    cases NumericRule.parse rule with
    | error e => rfl
    | ok parsed =>
      by_cases hm : parsed.Matches value
      · simp only [if_pos hm, Outcome.tagName]
      · simp only [if_neg hm, Outcome.tagName]

/-- The kind of the outcome depends on the text of the answer without its outer blanks. -/
theorem tagName_checkText {a b : Answer} (h : Text.trim a.toText = Text.trim b.toText)
    (rule label : String) :
    (checkText a rule label).tagName = (checkText b rule label).tagName := by
  have haccepts : AllowList.accepts (AllowList.ofText rule) a.toText =
      AllowList.accepts (AllowList.ofText rule) b.toText := by
    rw [Bool.eq_iff_iff, Criterion.accepts_iff, Criterion.accepts_iff, h]
  simp only [checkText, haccepts]
  split
  · rfl
  · split <;> rfl

/-! ## Answers that say nothing but blanks -/

namespace AllowList

theorem normal_eq_nil {cs : List Char} (h : ∀ c ∈ cs, Text.isBlank c = true) : normal cs = [] := by
  rw [normal, Text.trimChars_eq_nil_iff.2 h]
  rfl

/-- A rule of blanks lists nothing. -/
theorem ofText_of_allBlank {rule : String} (h : Text.allBlank rule = true) : ofText rule = [] := by
  rw [Text.allBlank, List.all_eq_true] at h
  rw [ofText, List.map_eq_nil_iff, List.filter_eq_nil_iff]
  intro token htoken
  obtain ⟨piece, hpiece, rfl⟩ := List.mem_map.1 htoken
  rw [normal_eq_nil fun c hc => h c (Text.mem_of_mem_pieces hpiece hc)]
  simp

theorem empty_not_mem_ofText (rule : String) : "" ∉ ofText rule := by
  intro h
  obtain ⟨token, htoken, hempty⟩ := List.mem_map.1 h
  have hnil : token = [] := by simpa [← String.toList_inj] using hempty
  have hkept := (List.mem_filter.1 htoken).2
  rw [hnil] at hkept
  cases hkept

/-- A text of blanks is on no list. -/
theorem not_accepts_of_allBlank {text : String} (h : Text.allBlank text = true) (rule : String) :
    ¬ accepts (ofText rule) text = true := by
  rw [accepts, normal_eq_nil (List.all_eq_true.1 h), List.contains_iff_mem]
  exact empty_not_mem_ofText rule

end AllowList

/-- An answer of blanks is left to a person if the rule lists nothing, and fails otherwise. -/
theorem Criterion.tagName_checkAnswer_of_allBlank {c : Criterion} {a : Answer}
    (hk : c.kind = .text) (h : Text.allBlank a.toText = true) :
    (c.checkAnswer a).tagName =
      if AllowList.ofText c.rule = [] then "needs_review" else "failed" := by
  rw [checkAnswer]
  by_cases hrule : Text.allBlank c.rule = true
  · rw [if_pos hrule, if_pos (AllowList.ofText_of_allBlank hrule)]
    rfl
  · rw [if_neg hrule, hk]
    simp only [checkText, List.isEmpty_iff]
    by_cases hlist : AllowList.ofText c.rule = []
    · simp only [if_pos hlist, Outcome.tagName]
    · simp only [if_neg hlist, if_neg (AllowList.not_accepts_of_allBlank h c.rule), Outcome.tagName]

/-! ## One criterion -/

namespace Criterion

variable {answers : AnswerMap} {c : Criterion} {a : Answer}

/-- The answer to a field for a text was entered, and says nothing but blanks. -/
def OnlyBlanks (answers : AnswerMap) (c : Criterion) : Prop :=
  c.kind = .text ∧ ∃ a, AnswerMap.Given answers c.label a ∧ Text.allBlank a.toText = true

/-- **An answer that is not lost by retyping is judged as before.** -/
theorem checkAnswer_retyped (hblank : ¬ a.isBlank = true)
    (htext : c.kind = .text → ¬ Text.allBlank a.toText = true) :
    ¬ (a.retyped c.kind).isBlank = true ∧
      (c.checkAnswer (a.retyped c.kind)).tagName = (c.checkAnswer a).tagName := by
  cases hk : c.kind with
  | unsupported name =>
    rw [Answer.retyped_unsupported]
    exact ⟨hblank, rfl⟩
  | number =>
    cases hn : a.number? with
    | none =>
      rw [Answer.retyped_number_of_none hn]
      exact ⟨hblank, rfl⟩
    | some x =>
      have hread := Answer.number?_retyped hn .number
      refine ⟨Answer.not_isBlank_of_number? hread, ?_⟩
      simp only [checkAnswer, hk]
      split
      · rfl
      · exact tagName_checkNumber (by rw [hread, hn]) _ _
  | text =>
    rw [Answer.retyped_text hblank]
    have hne : ¬ Text.trim a.toText = "" := fun h => htext hk (Text.allBlank_iff.2 h)
    refine ⟨fun h => hne (eq_of_beq h), ?_⟩
    simp only [checkAnswer, hk]
    split
    · rfl
    · exact tagName_checkText (by rw [Answer.toText, Text.trim_trim]) _ _

theorem check?_of_missing (h : AnswerMap.Missing answers c.label) :
    (c.check? answers).map Outcome.tagName = if c.required then some "failed" else none := by
  rw [check?, AnswerMap.present?_eq_none.2 h]
  simp only
  split <;> rfl

theorem check?_of_given (h : AnswerMap.Given answers c.label a) :
    (c.check? answers).map Outcome.tagName = some (c.checkAnswer a).tagName := by
  rw [check?, AnswerMap.present?_eq_some.2 h]
  rfl

end Criterion

/-! ## All criteria -/

section Distinct

variable {criteria : List Criterion} {answers : AnswerMap} {c : Criterion}
  (distinct : (criteria.map (·.label)).Nodup) (hc : c ∈ criteria)

include distinct hc

/-- The answer to the field of a criterion is retyped by that criterion. -/
theorem get?_retype_of_mem :
    (retype criteria answers).get? c.label =
      (answers.get? c.label).map (Answer.retyped c.kind) := by
  rw [get?_retype, kindsFor_of_mem distinct hc]
  rfl

theorem missing_retype (h : AnswerMap.Missing answers c.label) :
    AnswerMap.Missing (retype criteria answers) c.label := by
  rw [AnswerMap.Missing, get?_retype_of_mem distinct hc]
  rcases h with h | h | h <;> simp [h, Answer.retyped, Answer.isBlank]

theorem given_retype {a : Answer} (h : AnswerMap.Given answers c.label a)
    (hblank : ¬ (a.retyped c.kind).isBlank = true) :
    AnswerMap.Given (retype criteria answers) c.label (a.retyped c.kind) := by
  rw [AnswerMap.isBlank_iff, not_or] at hblank
  refine ⟨?_, hblank⟩
  rw [get?_retype_of_mem distinct hc, h.1]
  rfl

/-- Without blanks that pass for an answer, the kind of the outcome is kept. -/
theorem check?_retype_eq (h : ¬ c.OnlyBlanks answers) :
    (c.check? (retype criteria answers)).map Outcome.tagName =
      (c.check? answers).map Outcome.tagName := by
  by_cases hm : AnswerMap.Missing answers c.label
  · rw [Criterion.check?_of_missing hm,
      Criterion.check?_of_missing (missing_retype distinct hc hm)]
  · obtain ⟨a, ha⟩ := Option.ne_none_iff_exists'.1 (mt AnswerMap.present?_eq_none.1 hm)
    have hgiven : AnswerMap.Given answers c.label a := AnswerMap.present?_eq_some.1 ha
    have hblank : ¬ a.isBlank = true := by
      rw [AnswerMap.isBlank_iff, not_or]
      exact hgiven.2
    obtain ⟨hkept, htag⟩ := Criterion.checkAnswer_retyped (c := c) hblank
      fun hk hall => h ⟨hk, a, hgiven, hall⟩
    rw [Criterion.check?_of_given hgiven,
      Criterion.check?_of_given (given_retype distinct hc hgiven hkept), htag]

/-- Blanks that pass for an answer are lost. -/
theorem missing_retype_of_onlyBlanks (h : c.OnlyBlanks answers) :
    AnswerMap.Missing (retype criteria answers) c.label := by
  obtain ⟨hk, a, hgiven, hall⟩ := h
  have hblank : ¬ a.isBlank = true := by
    rw [AnswerMap.isBlank_iff, not_or]
    exact hgiven.2
  refine .inr (.inr ?_)
  rw [get?_retype_of_mem distinct hc, hgiven.1, hk, Option.map_some, Answer.retyped_text hblank,
    Text.allBlank_iff.1 hall]

end Distinct

theorem Criterion.check?_of_onlyBlanks {answers : AnswerMap} {c : Criterion}
    (h : c.OnlyBlanks answers) :
    (c.check? answers).map Outcome.tagName =
      some (if AllowList.ofText c.rule = [] then "needs_review" else "failed") := by
  obtain ⟨hk, a, hgiven, hall⟩ := h
  rw [check?_of_given hgiven, tagName_checkAnswer_of_allBlank hk hall]

/-- **Retyped answers are judged as before, with one exception.**  Let no two criteria have one
label.  A criterion gives an outcome of the same kind for the answers and for the retyped answers,
or is passed over both times, unless it is for a text and its answer says nothing but blanks.  Such
an answer fails or is left to a person before retyping, and counts as unanswered after it.  Where
there is none, the status is the same. -/
theorem check?_retype (criteria : List Criterion) (distinct : (criteria.map (·.label)).Nodup)
    (answers : AnswerMap) :
    (∀ c ∈ criteria,
      (¬ c.OnlyBlanks answers →
        (c.check? (retype criteria answers)).map Outcome.tagName =
          (c.check? answers).map Outcome.tagName) ∧
      (c.OnlyBlanks answers →
        AnswerMap.Missing (retype criteria answers) c.label ∧
        (c.check? (retype criteria answers)).map Outcome.tagName =
          (if c.required then some "failed" else none) ∧
        (c.check? answers).map Outcome.tagName =
          some (if AllowList.ofText c.rule = [] then "needs_review" else "failed"))) ∧
    ((∀ c ∈ criteria, c.label ≠ Criterion.scoreRowLabel → ¬ c.OnlyBlanks answers) →
      (evaluate criteria (some (retype criteria answers))).status =
        (evaluate criteria (some answers)).status) := by
  refine ⟨fun c hc => ⟨check?_retype_eq distinct hc, fun h => ?_⟩, fun h => ?_⟩
  · have hm := missing_retype_of_onlyBlanks distinct hc h
    exact ⟨hm, Criterion.check?_of_missing hm, Criterion.check?_of_onlyBlanks h⟩
  · have hviolated : ∀ c ∈ criteria, c.label ≠ Criterion.scoreRowLabel →
        (c.Violated (retype criteria answers) ↔ c.Violated answers) := by
      intro c hc hl
      rw [Criterion.violated_iff_tagName, Criterion.violated_iff_tagName,
        check?_retype_eq distinct hc (h c hc hl)]
    rw [Verdict.status_eq_iff, status_evaluate, status_evaluate]
    refine exists_congr fun c => and_congr_right fun hc => and_congr_right fun hl => ?_
    simp [hviolated c hc hl]

/-- A remark, which may be left out, and a grade. -/
def remarkAndGrade : List Criterion :=
  [⟨"catatan", .text, "S1", false⟩, ⟨"ipk", .number, ">= 3.0", true⟩]

/-- A remark of blanks fails before retyping and is passed over after it; the grade beside it
passes both times.  With a remark that says something the applicant passes both times. -/
theorem check?_retype_blanks :
    (remarkAndGrade.map (·.label)).Nodup ∧
    Criterion.OnlyBlanks (.ofList [("catatan", .text "  "), ("ipk", .text " 3.5 ")])
      ⟨"catatan", .text, "S1", false⟩ ∧
    (Criterion.check? (.ofList [("catatan", .text "  "), ("ipk", .text " 3.5 ")])
      ⟨"catatan", .text, "S1", false⟩).map Outcome.tagName = some "failed" ∧
    (Criterion.check? (retype remarkAndGrade
        (.ofList [("catatan", .text "  "), ("ipk", .text " 3.5 ")]))
      ⟨"catatan", .text, "S1", false⟩).map Outcome.tagName = none ∧
    (Criterion.check? (retype remarkAndGrade
        (.ofList [("catatan", .text "  "), ("ipk", .text " 3.5 ")]))
      ⟨"ipk", .number, ">= 3.0", true⟩).map Outcome.tagName = some "passed" ∧
    (evaluate remarkAndGrade (some (retype remarkAndGrade
      (.ofList [("catatan", .text " s1 "), ("ipk", .text " 3.5 ")])))).status = .lolos := by
  have hblanks : Criterion.OnlyBlanks (.ofList [("catatan", .text "  "), ("ipk", .text " 3.5 ")])
      ⟨"catatan", .text, "S1", false⟩ := ⟨rfl, .text "  ", ⟨rfl, by simp, by simp⟩, rfl⟩
  have hgrade : ∀ answers, ¬ Criterion.OnlyBlanks answers ⟨"ipk", .number, ">= 3.0", true⟩ :=
    fun _ h => nomatch h.1
  have hremark : ¬ Criterion.OnlyBlanks
      (.ofList [("catatan", .text " s1 "), ("ipk", .text " 3.5 ")])
      ⟨"catatan", .text, "S1", false⟩ := by
    rintro ⟨-, a, ⟨ha, -⟩, hall⟩
    cases ha
    revert hall
    decide +kernel
  have hdistinct : (remarkAndGrade.map (·.label)).Nodup := by decide
  obtain ⟨hchecks, -⟩ := check?_retype remarkAndGrade hdistinct
    (.ofList [("catatan", .text "  "), ("ipk", .text " 3.5 ")])
  obtain ⟨-, hstatus⟩ := check?_retype remarkAndGrade hdistinct
    (.ofList [("catatan", .text " s1 "), ("ipk", .text " 3.5 ")])
  obtain ⟨-, hafter, hbefore⟩ := (hchecks _ (.head _)).2 hblanks
  have hsame := (hchecks _ (.tail _ (.head _))).1 (hgrade _)
  have hnone : ∀ c ∈ remarkAndGrade, c.label ≠ Criterion.scoreRowLabel → ¬ c.OnlyBlanks
      (.ofList [("catatan", .text " s1 "), ("ipk", .text " 3.5 ")]) := by
    intro c hc _
    rcases List.mem_cons.1 hc with rfl | hc
    · exact hremark
    · rw [List.mem_singleton.1 hc]
      exact hgrade _
  exact ⟨hdistinct, hblanks, hbefore.trans (by decide +kernel), hafter,
    hsame.trans (by decide +kernel), (hstatus hnone).trans (by decide +kernel)⟩

end Hiring
