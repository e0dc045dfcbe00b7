import Hiring.Office.Operation
import Hiring.Screening.Request

/-!
# The office

What administrators and applicants can do.

* `Office.createJob`, `Office.job`, `Office.jobs` — open a position, look at one, look at all.
* `Office.apply` — take in an application; if the job has criteria and there are answers, it is
  screened at once.
* `Office.rescreen` — screen a stored application again; only the screening stages are moved.
* `Office.tryScreening` — screen answers for a job and keep nothing.
* `Office.moveTo` — put an application into a stage by hand.
* `Office.applicant`, `Office.applicantsFor` — look at one application, or at all for a job.
-/

namespace Hiring

open Json (Decoder Fields)

/-- An application as it was stored, and the verdict on it if it was screened. -/
structure Receipt where
  applicant : Applicant
  verdict : Option Verdict

/-- An application after it was screened again. -/
structure Rescreening where
  applicant : Applicant
  verdict : Verdict

/-- Answers to be screened for a job without keeping them. -/
structure TrialRequest where
  answers : Option Json
  score : Option Binary64

/-- What comes of screening answers without keeping them. -/
inductive Trial where
  /-- The job has no criteria. -/
  | noCriteria
  | evaluated (jobTitle : String) (originalAnswers processedAnswers : Option Json)
      (result : Verdict)

/-- The office screens with fixed settings. -/
structure Office where
  screener : Screener

namespace Office

/-! ## Jobs -/

/-- Opens a position. -/
def createJob (draft : JobDraft) : Operation JobPosting := do
  Operation.require draft.validate
  let id ← Operation.drawJobId
  Operation.insertJob (.ofDraft id draft)

/-- The job with an identifier. -/
def job (id : JobId) : Operation JobPosting := do
  match ← Operation.fetchJob id with
  | some job => return job
  | none => throw (.jobNotFound id)

/-- Jobs in the order of their identifiers. -/
def sortJobs (jobs : List JobPosting) : List JobPosting :=
  jobs.mergeSort fun a b => decide (a.id ≤ b.id)

/-- All jobs in the order of their identifiers. -/
def jobs : Operation (List JobPosting) := do return sortJobs (← Operation.listJobs)

/-! ## Applications -/

/-- The verdict on submitted answers; answers that are no object count as none. -/
def screen (o : Office) (job : JobPosting) (answers : Json) (score : Option Binary64) : Verdict :=
  (o.screener.screen job.criteria (AnswerMap.ofJson? answers) score).verdict

/-- The verdict on an application as it comes in, if the job has criteria and there are answers. -/
def firstVerdict (o : Office) (job : JobPosting) (s : Submission) : Option Verdict :=
  if job.isScreened then s.answers.map fun answers => o.screen job answers s.score else none

/-- The application that is stored for a submission. -/
def enrol (s : Submission) (job : JobPosting) (verdict : Option Verdict) (id : ApplicantId)
    (time : Timestamp) : Applicant where
  id := id
  jobId := job.id
  name := Text.trim s.name
  email := Text.trim s.email
  userId := s.userId
  company := s.company
  uploadedFiles := s.uploadedFiles
  answers := s.answers
  stage := (verdict.map fun v => Stage.ofStatus v.status).getD .applied
  autoScreening := (verdict.map fun v => AutoScreening.ofStatus v.status).getD .pending
  log := verdict.map (·.log)
  score := s.score
  appliedAt := time

/-- Takes in an application. -/
def apply (o : Office) (s : Submission) : Operation Receipt := do
  Operation.require s.validate
  let job ← job s.jobId
  let verdict := o.firstVerdict job s
  let id ← Operation.drawApplicantId
  let time ← Operation.now
  let stored ← Operation.insertApplicant (enrol s job verdict id time)
  return ⟨stored, verdict⟩

/-- The application with an identifier. -/
def applicant (id : ApplicantId) : Operation Applicant := do
  match ← Operation.fetchApplicant id with
  | some a => return a
  | none => throw (.applicantNotFound id)

/-- An application with a new verdict.  A stage past screening is kept. -/
def withVerdict (a : Applicant) (v : Verdict) : Applicant :=
  { a with
    autoScreening := .ofStatus v.status
    log := some v.log
    stage := if a.stage.isScreening then .ofStatus v.status else a.stage }

/-- Screens a stored application again. -/
def rescreen (o : Office) (id : ApplicantId) : Operation Rescreening := do
  let a ← applicant id
  let job ← job a.jobId
  let verdict := o.screen job (a.answers.getD .null) a.score
  let a := withVerdict a verdict
  Operation.updateApplicant a
  return ⟨a, verdict⟩

/-- Screens answers for a job and keeps nothing. -/
def tryScreening (o : Office) (id : JobId) (request : TrialRequest) : Operation Trial := do
  let job ← job id
  if job.isScreened then
    let answers := AnswerMap.ofJson? (request.answers.getD .null)
    let screening := o.screener.screen job.criteria answers request.score
    return .evaluated job.title request.answers (screening.processed.map AnswerMap.toJson)
      screening.verdict
  else return .noCriteria

/-- Puts an application into a stage. -/
def moveTo (id : ApplicantId) (stage : Stage) : Operation Applicant := do
  let a ← applicant id
  let a := { a with stage }
  Operation.updateApplicant a
  return a

/-- Earlier applications first, those of one time in the order of their identifiers. -/
def comesBefore (a b : Applicant) : Bool :=
  if a.appliedAt = b.appliedAt then decide (a.id ≤ b.id) else a.appliedAt.le b.appliedAt

/-- Applications in the order in which they came in. -/
def sortApplicants (applicants : List Applicant) : List Applicant :=
  applicants.mergeSort comesBefore

/-- All applications for a job, in the order in which they came in. -/
def applicantsFor (id : JobId) : Operation (List Applicant) := do
  let _ ← job id
  return sortApplicants (← Operation.listApplicants id)

end Office

/-! ## In documents -/

/-- A trial in a document. -/
def TrialRequest.decoder : Decoder TrialRequest :=
  .record "TestScreeningRequest" (TrialRequest.mk <$> .defaulted "test_answers" (.optional .json) none
    <*> .defaulted "ai_score" (.optional .real) none)

/-- The trial as a value in a document. -/
def TrialRequest.toJson (r : TrialRequest) : Json :=
  .object [("test_answers", r.answers.getD .null), ("ai_score", .ofOption .ofBinary64 r.score)]

/-- What came of a trial, as a value in a document. -/
def Trial.toJson : Trial → Json
  | .noCriteria => .object [("message", .string "No screening criteria defined for this job")]
  | .evaluated jobTitle originalAnswers processedAnswers result =>
    .object [("job_title", .string jobTitle), ("original_answers", originalAnswers.getD .null),
      ("processed_answers", processedAnswers.getD .null), ("screening_result", result.toJson)]

end Hiring
