import Hiring.Criterion.Retyping
import Hiring.Screening.Evaluation

/-!
# Screening with a score

An applicant may come with a score from elsewhere.  The score has to reach a threshold, which a
job may set in a row of its own, and then the answers count as well.

* `Screener` — what screening needs besides a job and an applicant: the threshold of jobs that set
  none.
* `Screener.threshold` — the threshold that applies.
* `Screener.evaluateWithScore` — the verdict on answers and a score.
* `Screener.screen` — answers retyped and evaluated, with the score if there is one.
-/

namespace Hiring

/-- Screens applicants. -/
structure Screener where
  /-- The threshold for the score where a job sets none. -/
  defaultThreshold : Binary64

/-- Retyped answers, and the verdict on them. -/
structure Screening where
  processed : Option AnswerMap
  verdict : Verdict

namespace Screener

/-- The threshold where nothing is configured. -/
def standardThreshold : Binary64 := Binary64.ofInt 70

theorem isFinite_standardThreshold : standardThreshold.isFinite = true := by
  rw [standardThreshold, Binary64.ofInt_of_le (by decide)]
  rfl

/-- The screener where nothing is configured. -/
def standard : Screener := ⟨standardThreshold⟩

theorem isFinite_standard : standard.defaultThreshold.isFinite = true := by
  simp only [standard, isFinite_standardThreshold]

/-- The threshold of a row for the score, if its text is a finite number. -/
def rowThreshold? (c : Criterion) : Option Binary64 :=
  if c.isScoreRow then Binary64.finiteOfText? (Text.trim c.rule) else none

/-- The threshold for a job: that of the first row that has one, else the default. -/
def threshold (s : Screener) (criteria : List Criterion) : Binary64 :=
  (criteria.findSome? rowThreshold?).getD s.defaultThreshold

/-- The outcomes of a score alone.  Only a score below the threshold fails. -/
def scoreOutcomes (score threshold : Binary64) : List Outcome :=
  .passed ("Skor AI berhasil dihitung: " ++ score.text) ::
    if score < threshold then
      [.failed ("Skor AI (" ++ score.text ++ ") di bawah ambang batas (" ++ threshold.text ++ ").")]
    else []

/-- The verdict on answers and a score. -/
def evaluateWithScore (s : Screener) (criteria : List Criterion) (answers : Option AnswerMap)
    (score : Binary64) : Verdict :=
  .ofOutcomes (scoreOutcomes score (s.threshold criteria) ++ judge (answerRules criteria) answers)

/-- The verdict on answers, with a score if there is one. -/
def evaluateWith (s : Screener) (criteria : List Criterion) (answers : Option AnswerMap)
    (score : Option Binary64) : Verdict :=
  match score with
  | some score => s.evaluateWithScore criteria answers score
  | none => evaluate criteria answers

/-- Answers retyped and evaluated. -/
def screen (s : Screener) (criteria : List Criterion) (answers : Option AnswerMap)
    (score : Option Binary64) : Screening :=
  let processed := answers.map (retype criteria)
  ⟨processed, s.evaluateWith criteria processed score⟩

/-- The threshold is finite if the default is. -/
theorem isFinite_threshold {s : Screener} (h : s.defaultThreshold.isFinite = true)
    (criteria : List Criterion) : (s.threshold criteria).isFinite = true := by
  unfold threshold
  cases hf : criteria.findSome? rowThreshold? with
  | none => exact h
  | some x =>
    obtain ⟨c, _, hc⟩ := List.exists_of_findSome?_eq_some hf
    unfold rowThreshold? at hc
    split at hc
    · exact Binary64.isFinite_of_finiteOfText? hc
    · cases hc

/-! ## In documents -/

open Json (Decoder Fields)

/-- The settings of a screener in a document. -/
def decoder : Decoder Screener :=
  .record "ScreeningConfig" (Screener.mk <$> .required "default_ai_score_threshold" .real)

/-- The settings of a screener as a value in a document. -/
def toJson (s : Screener) : Json :=
  .object [("default_ai_score_threshold", .ofBinary64 s.defaultThreshold)]

end Screener

end Hiring
