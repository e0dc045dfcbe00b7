import Hiring.Storage.Script

/-!
# The storage in memory

* `Store` — jobs and applicants under their identifiers, and the counters from which identifiers
  are drawn.
* `Store.answer` — how each call is answered at a given time.
* `Store.jobIdOf`, `Store.applicantIdOf` — the identifiers, numbered in at least six digits.
-/

namespace Hiring

/-- Jobs, applicants and counters. -/
structure Store where
  jobs : Keyed JobPosting
  applicants : Keyed Applicant
  /-- The number of the next job. -/
  nextJob : UInt64
  /-- The number of the next applicant. -/
  nextApplicant : UInt64

namespace Store

/-- The storage at the start: nothing is stored, and counting begins at one. -/
def initial : Store := ⟨.empty, .empty, 1, 1⟩

/-- The identifier of the job with a number. -/
def jobIdOf (n : UInt64) : JobId := "job-" ++ String.ofList (Text.padded 6 n.toNat)

/-- The identifier of the applicant with a number. -/
def applicantIdOf (n : UInt64) : ApplicantId :=
  "applicant-" ++ String.ofList (Text.padded 6 n.toNat)

/-- The answer to a call at a time, and the storage after it.  An insertion never replaces a
record, and a change needs one. -/
def answer (time : Timestamp) (c : Call) (s : Store) : c.Reply × Store :=
  match c with
  | .drawJobId => (jobIdOf s.nextJob, { s with nextJob := s.nextJob + 1 })
  | .drawApplicantId =>
    (applicantIdOf s.nextApplicant, { s with nextApplicant := s.nextApplicant + 1 })
  | .now => (time, s)
  | .insertJob job =>
    if s.jobs.contains job.id then (.error .conflict, s)
    else (.ok job, { s with jobs := s.jobs.insert job.id job })
  | .fetchJob id => (.ok (s.jobs.get? id), s)
  | .listJobs => (.ok s.jobs.values, s)
  | .insertApplicant a =>
    if s.applicants.contains a.id then (.error .conflict, s)
    else (.ok a, { s with applicants := s.applicants.insert a.id a })
  | .updateApplicant a =>
    if s.applicants.contains a.id then
      (.ok (), { s with applicants := s.applicants.insert a.id a })
    else (.error .notFound, s)
  | .fetchApplicant id => (.ok (s.applicants.get? id), s)
  | .listApplicants jobId => (.ok (s.applicants.values.filter (·.jobId == jobId)), s)

/-- A script at a time, without others in between. -/
def run {α : Type} (time : Timestamp) (script : Script α) (s : Store) : α × Store :=
  script.runWith (answer time) s

end Store

end Hiring
