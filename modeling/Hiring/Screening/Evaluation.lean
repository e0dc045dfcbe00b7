import Hiring.Criterion.Check
import Hiring.Verdict.Basic

/-!
# Evaluating answers

* `answerRules` — the criteria that judge answers: all but the row with the threshold.
* `evaluate` — the verdict on the answers of an applicant.  `none` stands for a submission whose
  answers were missing or no object.
-/

namespace Hiring

/-- The criteria that judge answers. -/
def answerRules (criteria : List Criterion) : List Criterion :=
  criteria.filter fun c => !c.isScoreRow

/-- The outcome when there is nothing to judge by. -/
def noCriteria : Outcome := .passed "Tidak ada kriteria untuk dicek."

/-- The outcome when there is nothing to judge. -/
def invalidAnswers : Outcome := .failed "Data jawaban tidak valid."

/-- The outcomes of answers under criteria that judge answers. -/
def judge (rules : List Criterion) (answers : Option AnswerMap) : List Outcome :=
  match answers with
  | some answers => checkAll rules answers
  | none => [invalidAnswers]

/-- The verdict on answers under the criteria of a job. -/
def evaluate (criteria : List Criterion) (answers : Option AnswerMap) : Verdict :=
  let rules := answerRules criteria
  .ofOutcomes (if rules.isEmpty then [noCriteria] else judge rules answers)

end Hiring
