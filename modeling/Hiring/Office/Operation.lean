import Hiring.Office.Validation
import Hiring.Storage.Script

/-!
# Operations and their errors

An operation of the office is a script that ends with a result or an error.  An error ends the
operation at once; calls made before it stay made.

* `OfficeError` — why an operation gives no result.
* `Operation` — scripts that may end with an error.
* `Operation.drawJobId` … `Operation.listApplicants` — the calls to the storage, whose refusals
  end the operation.
-/

namespace Hiring

/-- Why an operation gives no result. -/
inductive OfficeError where
  | invalid (e : InvalidInput)
  | jobNotFound (id : JobId)
  | applicantNotFound (id : ApplicantId)
  | storage (e : StorageError)
deriving Repr, DecidableEq

/-- The wording of an error. -/
def OfficeError.message : OfficeError → String
  | .invalid e => e.message
  | .jobNotFound id => "job " ++ id ++ " not found"
  | .applicantNotFound id => "applicant " ++ id ++ " not found"
  | .storage e => e.message

/-- A script that may end with an error. -/
abbrev Operation (α : Type) : Type := ExceptT OfficeError Script α

namespace Operation

variable {α : Type}

/-- A script as an operation that cannot fail. -/
def ofScript (s : Script α) : Operation α := ExceptT.mk (Except.ok <$> s)

/-- A script as an operation: a refusal of the storage ends it. -/
def ofStorage (s : Script (Except StorageError α)) : Operation α :=
  ExceptT.mk ((·.mapError OfficeError.storage) <$> s)

/-- An operation that fails if the input is refused. -/
def require (e : Except InvalidInput α) : Operation α :=
  ExceptT.mk (.done (e.mapError OfficeError.invalid))

/-- The next identifier of a job. -/
def drawJobId : Operation JobId := ofScript (.ask .drawJobId)

/-- The next identifier of an applicant. -/
def drawApplicantId : Operation ApplicantId := ofScript (.ask .drawApplicantId)

/-- The time. -/
def now : Operation Timestamp := ofScript (.ask .now)

/-- Stores a job under an identifier that is not in use. -/
def insertJob (job : JobPosting) : Operation JobPosting := ofStorage (.ask (.insertJob job))

/-- The job with an identifier, if there is one. -/
def fetchJob (id : JobId) : Operation (Option JobPosting) := ofStorage (.ask (.fetchJob id))

/-- All jobs, in no particular order. -/
def listJobs : Operation (List JobPosting) := ofStorage (.ask .listJobs)

/-- Stores an applicant under an identifier that is not in use. -/
def insertApplicant (a : Applicant) : Operation Applicant := ofStorage (.ask (.insertApplicant a))

/-- Stores an applicant in place of the one with the same identifier. -/
def updateApplicant (a : Applicant) : Operation Unit := ofStorage (.ask (.updateApplicant a))

/-- The applicant with an identifier, if there is one. -/
def fetchApplicant (id : ApplicantId) : Operation (Option Applicant) :=
  ofStorage (.ask (.fetchApplicant id))

/-- The applicants for a job, in no particular order. -/
def listApplicants (jobId : JobId) : Operation (List Applicant) :=
  ofStorage (.ask (.listApplicants jobId))

end Operation

end Hiring
