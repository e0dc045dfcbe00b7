import Hiring.Proofs.Criterion.Bounds
import Hiring.Proofs.Screening.AskedAnswers

/-!
# Better answers never hurt

If all that a job asks of a number is a lower bound, then an applicant who passes with a number
passes with every greater one, whatever else the job asks and whatever else was answered.  The same
holds of smaller numbers under upper bounds, and of scores.

* `Screener.screen_lolos_iff` — when answers pass screening, with a score or without.
* `violated_of_insert` — a criterion that is violated after the answer to one field was
  exchanged was violated before, if no rule of that field tells the two numbers apart the wrong way.
* `Screener.better_answers_pass` — **the three statements**.
-/

set_option autoImplicit false

namespace Hiring

open Criterion (Kind)

/-! ## One answer exchanged for another -/

section Exchange

variable {criteria : List Criterion} {answers : AnswerMap} {label : String} {p q : Answer}
  {v w : Binary64}

/-- An answer that says a number is still there after retyping, and says the number. -/
theorem exists_given_retype (criteria : List Criterion) (answers : AnswerMap) (label : String)
    (hp : p.number? = some v) :
    ∃ a, AnswerMap.Given (retype criteria (answers.insert label p)) label a ∧
      a.number? = some v := by
  have hread := Answer.number?_retypedBy (kindsFor criteria label) hp
  refine ⟨_, ⟨?_, ?_⟩, hread⟩
  · rw [get?_retype, Keyed.get?_insert_self, Option.map_some]
  · rw [← not_or, ← AnswerMap.isBlank_iff]
    exact Answer.not_isBlank_of_number? hread

/-- **What is violated by the one number is violated by the other**, unless a rule for it tells
them apart. -/
theorem violated_of_insert (hp : p.number? = some v) (hq : q.number? = some w)
    (kinds : ∀ c ∈ criteria, c.label = label → c.kind = .number)
    (rules : ∀ c ∈ criteria, c.label = label → ¬ Text.allBlank c.rule = true →
      ∀ rule, NumericRule.parse c.rule = .ok rule → rule.Matches v → rule.Matches w)
    {c : Criterion} (hc : c ∈ criteria)
    (h : c.Violated (retype criteria (answers.insert label q))) :
    c.Violated (retype criteria (answers.insert label p)) := by
  by_cases hl : c.label = label
  · subst hl
    obtain ⟨a, ha, hv⟩ := exists_given_retype criteria answers c.label hp
    obtain ⟨b, hb, hw⟩ := exists_given_retype criteria answers c.label hq
    cases h with
    | unanswered _ hm => exact absurd hm hb.not_missing
    | notAllowed _ _ hk _ _ =>
      rw [kinds c hc rfl] at hk
      cases hk
    | outOfRange hb' hs hk hreads hparses hfails =>
      rw [hb'.unique hb, hw, Option.some.injEq] at hreads
      subst hreads
      exact .outOfRange ha hs hk hv hparses fun hm => hfails (rules c hc rfl hs _ hparses hm)
  · have hsame (r : Answer) : (retype criteria (answers.insert label r)).get? c.label =
        (retype criteria answers).get? c.label :=
      get?_retype_congr criteria (answers.get?_insert_of_ne r hl)
    rwa [Criterion.violated_congr ((hsame p).trans (hsame q).symm)]

end Exchange

/-! ## Screening -/

namespace Screener

/-- Answers pass screening if the score, where there is one, is not too small, and no criterion is
violated. -/
theorem screen_lolos_iff (s : Screener) (criteria : List Criterion) (answers : AnswerMap)
    (score : Option Binary64) :
    (s.screen criteria (some answers) score).verdict.status = .lolos ↔
      (∀ x, score = some x → ¬ x < s.threshold criteria) ∧
        AnswersPass criteria (some (retype criteria answers)) := by
  rw [Verdict.status_eq_lolos]
  cases score with
  | some x =>
    have hreject : (s.screen criteria (some answers) (some x)).verdict.status = .tidakLolos ↔ _ :=
      status_evaluateWithScore
    rw [hreject, not_or, Classical.not_not]
    simp
  | none =>
    have hreject : (s.screen criteria (some answers) none).verdict.status = .tidakLolos ↔ _ :=
      status_evaluate
    rw [hreject, AnswersPass]
    simp

/-- A number may be exchanged for one of which all rules hold that held of the first. -/
theorem screen_lolos_of_insert (s : Screener) {criteria : List Criterion} {answers : AnswerMap}
    {label : String} (score : Option Binary64) {p q : Answer} {v w : Binary64}
    (hp : p.number? = some v) (hq : q.number? = some w)
    (kinds : ∀ c ∈ criteria, c.label = label → c.kind = .number)
    (rules : ∀ c ∈ criteria, c.label = label → ¬ Text.allBlank c.rule = true →
      ∀ rule, NumericRule.parse c.rule = .ok rule → rule.Matches v → rule.Matches w)
    (h : (s.screen criteria (some (answers.insert label p)) score).verdict.status = .lolos) :
    (s.screen criteria (some (answers.insert label q)) score).verdict.status = .lolos := by
  rw [screen_lolos_iff] at h ⊢
  obtain ⟨hscore, given, hgiven, hpass⟩ := h
  cases hgiven
  exact ⟨hscore, _, rfl, fun c hc hl hviolated =>
    hpass c hc hl (violated_of_insert hp hq kinds rules hc hviolated)⟩

/-- **Better answers never hurt.**  Let two answers say numbers, `p` the smaller one.  Where the
criteria for a field ask only for more, an applicant who passes with `p` passes with `q`; where they
ask only for less, one who passes with `q` passes with `p`.  And an applicant who passes with a
finite score passes with every greater one. -/
theorem better_answers_pass (s : Screener) (criteria : List Criterion) :
    (∀ (answers : AnswerMap) (label : String) (score : Option Binary64) (p q : Answer)
        (v w : Binary64), p.number? = some v → q.number? = some w → v ≤ w →
      ((∀ c ∈ criteria, c.label = label → c.AsksOnly Comparison.lowerBounds) →
        (s.screen criteria (some (answers.insert label p)) score).verdict.status = .lolos →
        (s.screen criteria (some (answers.insert label q)) score).verdict.status = .lolos) ∧
      ((∀ c ∈ criteria, c.label = label → c.AsksOnly Comparison.upperBounds) →
        (s.screen criteria (some (answers.insert label q)) score).verdict.status = .lolos →
        (s.screen criteria (some (answers.insert label p)) score).verdict.status = .lolos)) ∧
    (∀ (answers : Option AnswerMap) (x y : Binary64), x.isFinite = true → y.isFinite = true →
      x ≤ y → (s.screen criteria answers (some x)).verdict.status = .lolos →
        (s.screen criteria answers (some y)).verdict.status = .lolos) := by
  refine ⟨fun answers label score p q v w hp hq hvw => ⟨fun hasks => ?_, fun hasks => ?_⟩, ?_⟩
  · have hv := Answer.isFinite_of_number? hp
    have hw := Answer.isFinite_of_number? hq
    refine s.screen_lolos_of_insert score hp hq (fun c hc hl => (hasks c hc hl).1) ?_
    intro c hc hl hs rule hrule hholds
    exact hholds.of_le hv hw (NumericRule.isFinite_threshold hrule) hvw
      ((hasks c hc hl).comparison_mem hs hrule)
  · have hv := Answer.isFinite_of_number? hp
    have hw := Answer.isFinite_of_number? hq
    refine s.screen_lolos_of_insert score hq hp (fun c hc hl => (hasks c hc hl).1) ?_
    intro c hc hl hs rule hrule hholds
    exact hholds.of_ge hv hw (NumericRule.isFinite_threshold hrule) hvw
      ((hasks c hc hl).comparison_mem hs hrule)
  · intro answers x y _ _ hxy hpass
    have hreject (z : Binary64) : (s.screen criteria answers (some z)).verdict.status =
        .tidakLolos ↔ z < s.threshold criteria ∨ _ := status_evaluateWithScore
    rw [Verdict.status_eq_lolos, hreject, not_or] at hpass ⊢
    exact ⟨fun hlt => hpass.1 (Binary64.lt_of_le_of_lt hxy hlt), hpass.2⟩

/-- A grade that is asked for twice, once by a rule that cannot be read, beside a degree and a
number of days to wait. -/
def gradeAndNotice : List Criterion :=
  [⟨"ipk", .number, ">= 3.0", true⟩, ⟨"gelar", .text, "S1, S2", true⟩,
    ⟨"ipk", .number, "abc", false⟩, ⟨"hari", .number, "maksimal 30", true⟩]

/-- A degree and the longest wait that is allowed. -/
def degreeAndWait : AnswerMap := .ofList [("gelar", .text "s1"), ("hari", .text "30")]

/-- A degree and a grade. -/
def degreeAndGrade : AnswerMap := .ofList [("gelar", .text "s1"), ("ipk", .text "3.5")]

/-- A grade that only the tolerance lets pass, and the threshold itself; a wait that only the
tolerance lets pass, and the threshold itself; two scores. -/
theorem better_answers_pass_tolerance :
    ((∀ c ∈ gradeAndNotice, c.label = "ipk" → c.AsksOnly Comparison.lowerBounds) ∧
      (standard.screen gradeAndNotice (some (degreeAndWait.insert "ipk" (.text " 2.9999995 ")))
        none).verdict.status = .lolos ∧
      (standard.screen gradeAndNotice (some (degreeAndWait.insert "ipk" (.text "3")))
        none).verdict.status = .lolos) ∧
    ((∀ c ∈ gradeAndNotice, c.label = "hari" → c.AsksOnly Comparison.upperBounds) ∧
      (standard.screen gradeAndNotice (some (degreeAndGrade.insert "hari" (.text "30.0000005")))
        none).verdict.status = .lolos ∧
      (standard.screen gradeAndNotice (some (degreeAndGrade.insert "hari" (.text "30")))
        none).verdict.status = .lolos) ∧
    ((standard.screen [] (some .empty) (some (Binary64.ofInt 70))).verdict.status = .lolos ∧
      (standard.screen [] (some .empty) (some (Binary64.ofInt 71))).verdict.status = .lolos) := by
  obtain ⟨hanswers, -⟩ := better_answers_pass standard gradeAndNotice
  obtain ⟨-, hscores⟩ := better_answers_pass standard []
  have hgrade : ∀ c ∈ gradeAndNotice, c.label = "ipk" → c.AsksOnly Comparison.lowerBounds := by
    intro c hc hl
    simp only [gradeAndNotice, List.mem_cons, List.not_mem_nil, or_false] at hc
    rcases hc with rfl | rfl | rfl | rfl
    · exact ⟨rfl, .inr (.inr ⟨⟨.atLeast, Binary64.ofInt 3⟩, by decide +kernel, .head _⟩)⟩
    · exact absurd hl (by decide)
    · exact ⟨rfl, .inr (.inl ⟨⟨"abc"⟩, rfl⟩)⟩
    · exact absurd hl (by decide)
  have hwait : ∀ c ∈ gradeAndNotice, c.label = "hari" → c.AsksOnly Comparison.upperBounds := by
    intro c hc hl
    simp only [gradeAndNotice, List.mem_cons, List.not_mem_nil, or_false] at hc
    rcases hc with rfl | rfl | rfl | rfl
    · exact absurd hl (by decide)
    · exact absurd hl (by decide)
    · exact absurd hl (by decide)
    · exact ⟨rfl, .inr (.inr ⟨⟨.atMost, Binary64.ofInt 30⟩, by decide +kernel, .head _⟩)⟩
  have hnear : (standard.screen gradeAndNotice
      (some (degreeAndWait.insert "ipk" (.text " 2.9999995 "))) none).verdict.status = .lolos := by
    decide +kernel
  have hlong : (standard.screen gradeAndNotice
      (some (degreeAndGrade.insert "hari" (.text "30.0000005"))) none).verdict.status = .lolos := by
    decide +kernel
  have hseventy : (standard.screen [] (some .empty) (some (Binary64.ofInt 70))).verdict.status =
      .lolos := by
    decide +kernel
  refine ⟨⟨hgrade, hnear, ?_⟩, ⟨hwait, hlong, ?_⟩, hseventy, ?_⟩
  · exact (hanswers degreeAndWait "ipk" none (.text " 2.9999995 ") (.text "3")
      (Decimal.nearest ⟨false, 29999995, -7⟩) (Binary64.ofInt 3) (by decide +kernel)
      (by decide +kernel) (by decide +kernel)).1 hgrade hnear
  · exact (hanswers degreeAndGrade "hari" none (.text "30") (.text "30.0000005")
      (Binary64.ofInt 30) (Decimal.nearest ⟨false, 300000005, -7⟩) (by decide +kernel)
      (by decide +kernel) (by decide +kernel)).2 hwait hlong
  · exact hscores (some .empty) (Binary64.ofInt 70) (Binary64.ofInt 71) (by decide +kernel)
      (by decide +kernel) (by decide +kernel) hseventy

end Screener

end Hiring
