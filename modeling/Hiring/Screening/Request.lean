import Hiring.Screening.Screener

/-!
# Screening without a stored job

Criteria, answers and a score are screened as they come, and nothing is kept.

* `ScreeningRequest` — what is screened.
* `ScreeningReport` — what comes of it.
-/

namespace Hiring

open Json (Decoder Fields)

/-- Criteria, the answers of an applicant, and a score. -/
structure ScreeningRequest where
  criteria : List Criterion
  answers : Option Json
  score : Option Binary64

/-- The retyped answers, and the verdict on them. -/
structure ScreeningReport where
  processedAnswers : Option Json
  result : Verdict

/-- A request in a document. -/
def ScreeningRequest.decoder : Decoder ScreeningRequest :=
  .record "ScreeningRequest" (ScreeningRequest.mk <$> .required "criteria" (.list Criterion.decoder)
    <*> .defaulted "answers" (.optional .json) none
    <*> .defaulted "ai_score" (.optional .real) none)

/-- The report on a request.  Answers that are no object count as none. -/
def Screener.report (s : Screener) (request : ScreeningRequest) : ScreeningReport :=
  let screening := s.screen request.criteria (request.answers.bind AnswerMap.ofJson?) request.score
  ⟨screening.processed.map AnswerMap.toJson, screening.verdict⟩

/-- The report as a value in a document. -/
def ScreeningReport.toJson (r : ScreeningReport) : Json :=
  .object [("processed_answers", r.processedAnswers.getD .null),
    ("screening_result", r.result.toJson)]

end Hiring
