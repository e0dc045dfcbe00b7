import Hiring.Applicant.Stage
import Hiring.Job.Basic
import Hiring.Timestamp.Reader

/-!
# Applicants

* `Submission` — an application as it comes from the form.
* `Applicant` — an application as it is stored, with its stage and its last screening.
* `StatusView` — what is shown of an applicant when only the state matters.
-/

namespace Hiring

open Json (Decoder Fields)

/-- The identifier of an applicant. -/
abbrev ApplicantId := String

/-- An application as it comes from the form. -/
structure Submission where
  jobId : JobId
  name : String
  email : String
  userId : Option String
  company : Option String
  uploadedFiles : List String
  answers : Option Json
  score : Option Binary64

/-- An application as it is stored. -/
structure Applicant where
  id : ApplicantId
  jobId : JobId
  name : String
  email : String
  userId : Option String
  company : Option String
  uploadedFiles : List String
  /-- The answers as they were submitted. -/
  answers : Option Json
  stage : Stage
  autoScreening : AutoScreening
  /-- The log of the last screening. -/
  log : Option Log
  score : Option Binary64
  appliedAt : Timestamp

/-- The state of an applicant. -/
structure StatusView where
  applicantId : ApplicantId
  jobId : JobId
  stage : Stage
  autoScreening : AutoScreening
deriving Repr, DecidableEq

/-- What is shown of the state of an applicant. -/
def Applicant.statusView (a : Applicant) : StatusView := ⟨a.id, a.jobId, a.stage, a.autoScreening⟩

/-! ## In documents -/

/-- A submission in a document. -/
def Submission.decoder : Decoder Submission :=
  .record "ApplicationSubmission" (Submission.mk <$> .required "job_id" .string
    <*> .required "name" .string
    <*> .required "email" .string
    <*> .defaulted "user_id" (.optional .string) none
    <*> .defaulted "company" (.optional .string) none
    <*> (Fields.defaulted "uploadedFiles" (.list .string) []).orNamed "uploaded_files"
    <*> .defaulted "custom_answers" (.optional .json) none
    <*> .defaulted "ai_score" (.optional .real) none)

/-- The submission as a value in a document. -/
def Submission.toJson (s : Submission) : Json :=
  .object [("job_id", .string s.jobId), ("name", .string s.name), ("email", .string s.email),
    ("user_id", .ofOption .string s.userId), ("company", .ofOption .string s.company),
    ("uploadedFiles", .ofStrings s.uploadedFiles), ("custom_answers", s.answers.getD .null),
    ("ai_score", .ofOption .ofBinary64 s.score)]

/-- An applicant in a document. -/
def Applicant.decoder : Decoder Applicant :=
  .record "ApplicantRecord" (Applicant.mk <$> .required "id" .string
    <*> .required "job_id" .string
    <*> .required "name" .string
    <*> .required "email" .string
    <*> .nullable "user_id" .string
    <*> .nullable "company" .string
    <*> .required "uploaded_files" (.list .string)
    <*> .nullable "custom_answers" .json
    <*> .required "status" Stage.decoder
    <*> .required "auto_screening_status" AutoScreening.decoder
    <*> .nullable "auto_screening_log" Log.decoder
    <*> .nullable "ai_score" .real
    <*> .required "applied_at" Timestamp.decoder)

/-- The applicant as a value in a document. -/
def Applicant.toJson (a : Applicant) : Json :=
  .object [("id", .string a.id), ("job_id", .string a.jobId), ("name", .string a.name),
    ("email", .string a.email), ("user_id", .ofOption .string a.userId),
    ("company", .ofOption .string a.company), ("uploaded_files", .ofStrings a.uploadedFiles),
    ("custom_answers", a.answers.getD .null), ("status", a.stage.toJson),
    ("auto_screening_status", a.autoScreening.toJson),
    ("auto_screening_log", .ofOption Log.toJson a.log),
    ("ai_score", .ofOption .ofBinary64 a.score), ("applied_at", .string a.appliedAt.text)]

/-- The state of an applicant as a value in a document. -/
def StatusView.toJson (v : StatusView) : Json :=
  .object [("applicant_id", .string v.applicantId), ("job_id", .string v.jobId),
    ("status", .string v.stage.label), ("auto_screening_status", .string v.autoScreening.label)]

end Hiring
