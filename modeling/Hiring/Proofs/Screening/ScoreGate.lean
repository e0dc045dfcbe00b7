import Hiring.Proofs.Binary64.Order
import Hiring.Proofs.Screening.Rejection
import Hiring.Screening.Screener

/-!
# The gate for scores

A score has to reach a threshold before answers count.  The screener tests whether the score is
*smaller*, which is the same for every score that is a number.

* `Criterion.SetsThreshold`, `Screener.AppliesThreshold` — the threshold that a row sets, and the
  one that applies to a job.
* `Screener.status_evaluateWithScore` — a screening with a score rejects if the score is smaller
  than the threshold or the answers do not pass.
* `Screener.gate_open_iff` — **where the gate is open**: an applicant passes with a score that is
  not at least the threshold exactly if the score is no number and the answers pass.
* `Screener.gate_open` — the gate is open somewhere.
-/

set_option autoImplicit false

namespace Hiring

/-! ## The threshold that applies -/

/-- The row is there for the score, and its text without outer blanks is a finite number. -/
def Criterion.SetsThreshold (c : Criterion) (x : Binary64) : Prop :=
  c.label = Criterion.scoreRowLabel ∧ Binary64.ofText? (Text.trim c.rule) = some x ∧
    x.isFinite = true

/-- The threshold is that of the first row that sets one, or the default if none does. -/
def Screener.AppliesThreshold (s : Screener) (criteria : List Criterion) (x : Binary64) : Prop :=
  (∃ before row after, criteria = before ++ row :: after ∧ row.SetsThreshold x ∧
    ∀ c ∈ before, ∀ y, ¬ c.SetsThreshold y) ∨
  (∀ c ∈ criteria, ∀ y, ¬ c.SetsThreshold y) ∧ x = s.defaultThreshold

namespace Screener

theorem rowThreshold?_eq_some {c : Criterion} {x : Binary64} :
    rowThreshold? c = some x ↔ c.SetsThreshold x := by
  rw [rowThreshold?, Criterion.SetsThreshold]
  by_cases hl : c.isScoreRow = true
  · rw [if_pos hl, Binary64.finiteOfText?, Option.filter_eq_some_iff]
    simp [Criterion.isScoreRow_iff.1 hl]
  · rw [if_neg hl]
    simp [← Criterion.isScoreRow_iff, hl]

theorem rowThreshold?_eq_none {c : Criterion} :
    rowThreshold? c = none ↔ ∀ x, ¬ c.SetsThreshold x := by
  rw [Option.eq_none_iff_forall_ne_some]
  simp only [Ne, rowThreshold?_eq_some]

theorem appliesThreshold (s : Screener) (criteria : List Criterion) :
    s.AppliesThreshold criteria (s.threshold criteria) := by
  rw [threshold, AppliesThreshold]
  cases hf : criteria.findSome? rowThreshold? with
  | some x =>
    obtain ⟨before, row, after, hc, hx, hb⟩ := List.findSome?_eq_some_iff.1 hf
    exact .inl ⟨before, row, after, hc, rowThreshold?_eq_some.1 hx,
      fun c hc => rowThreshold?_eq_none.1 (hb c hc)⟩
  | none =>
    exact .inr ⟨fun c hc => rowThreshold?_eq_none.1 (List.findSome?_eq_none_iff.1 hf c hc), rfl⟩

/-! ## The gate -/

theorem exists_failure_scoreOutcomes {score threshold : Binary64} :
    (∃ o ∈ scoreOutcomes score threshold, o.isFailure = true) ↔ score < threshold := by
  rw [scoreOutcomes]
  by_cases h : score < threshold <;> simp [Outcome.isFailure, h]

/-- A score that is too small rejects, and so do answers that do not pass. -/
theorem status_evaluateWithScore {s : Screener} {criteria : List Criterion}
    {answers : Option AnswerMap} {score : Binary64} :
    (s.evaluateWithScore criteria answers score).status = .tidakLolos ↔
      score < s.threshold criteria ∨ ¬ AnswersPass criteria answers := by
  rw [evaluateWithScore, Verdict.status_ofOutcomes, ← exists_failure_scoreOutcomes,
    ← exists_failure_answerRules]
  simp only [List.mem_append, or_and_right, exists_or]

theorem passes_below_threshold_iff {s : Screener} (h : s.defaultThreshold.isFinite = true)
    {criteria : List Criterion} {answers : Option AnswerMap} {score : Binary64} :
    (s.evaluateWithScore criteria answers score).status = .lolos ∧
        ¬ s.threshold criteria ≤ score ↔
      score = .nan ∧ AnswersPass criteria answers := by
  have hfinite := isFinite_threshold h criteria
  rw [Verdict.status_eq_lolos, status_evaluateWithScore, not_or, Classical.not_not,
    Binary64.not_lt_iff (Binary64.ne_nan_of_isFinite hfinite)]
  constructor
  · rintro ⟨⟨hn | hle, hp⟩, hnle⟩
    · exact ⟨hn, hp⟩
    · exact absurd hle hnle
  · rintro ⟨rfl, hp⟩
    exact ⟨⟨.inl rfl, hp⟩, Binary64.not_le_nan _⟩

/-- **Where the gate is open.**  The threshold that applies is finite.  An applicant passes with a
score that is not at least the threshold exactly if the score is no number and the answers pass,
whether they are evaluated as they are or screened. -/
theorem gate_open_iff (s : Screener) (h : s.defaultThreshold.isFinite = true)
    (criteria : List Criterion) (answers : Option AnswerMap) (score : Binary64) :
    (s.threshold criteria).isFinite = true ∧
    s.AppliesThreshold criteria (s.threshold criteria) ∧
    ((s.evaluateWithScore criteria answers score).status = .lolos ∧
        ¬ s.threshold criteria ≤ score ↔
      score = .nan ∧ AnswersPass criteria answers) ∧
    ((s.screen criteria answers (some score)).verdict.status = .lolos ∧
        ¬ s.threshold criteria ≤ score ↔
      score = .nan ∧ AnswersPass criteria (answers.map (retype criteria))) :=
  ⟨isFinite_threshold h criteria, s.appliesThreshold criteria, passes_below_threshold_iff h,
    passes_below_threshold_iff h⟩

/-- A row whose text is no finite number leaves the threshold to the row after it. -/
theorem gate_open_iff_second_row :
    standard.defaultThreshold.isFinite = true ∧
    (standard.threshold [⟨"ai_score_threshold", .number, "inf", false⟩,
      ⟨"ai_score_threshold", .number, " 80 ", false⟩]).isFinite = true ∧
    ¬ ((standard.evaluateWithScore [⟨"ai_score_threshold", .number, "inf", false⟩,
          ⟨"ai_score_threshold", .number, " 80 ", false⟩] (some .empty)
          (Binary64.ofInt 79)).status = .lolos ∧
        ¬ standard.threshold [⟨"ai_score_threshold", .number, "inf", false⟩,
          ⟨"ai_score_threshold", .number, " 80 ", false⟩] ≤ Binary64.ofInt 79) := by
  obtain ⟨hfinite, -, hpasses, -⟩ := gate_open_iff standard isFinite_standard
    [⟨"ai_score_threshold", .number, "inf", false⟩,
      ⟨"ai_score_threshold", .number, " 80 ", false⟩] (some .empty) (Binary64.ofInt 79)
  refine ⟨isFinite_standard, hfinite, fun h => ?_⟩
  have hnan : Binary64.ofInt 79 = .nan := (hpasses.1 h).1
  rw [Binary64.ofInt_of_le (by decide)] at hnan
  cases hnan

/-- **The gate is open.**  A text that is read as a score passes, with good answers, a threshold
that it does not reach. -/
theorem gate_open :
    standard.defaultThreshold.isFinite = true ∧ Binary64.ofText? "NaN" = some .nan ∧
    (standard.evaluateWithScore [⟨"usia", .number, "> 17", true⟩]
      (some (.ofList [("usia", .text "20")])) .nan).status = .lolos ∧
    (standard.screen [⟨"usia", .number, "> 17", true⟩]
      (some (.ofList [("usia", .text "20")])) (some .nan)).verdict.status = .lolos ∧
    ¬ standard.threshold [⟨"usia", .number, "> 17", true⟩] ≤ .nan :=
  ⟨isFinite_standard, rfl, by decide +kernel, by decide +kernel, Binary64.not_le_nan _⟩

end Screener

end Hiring
