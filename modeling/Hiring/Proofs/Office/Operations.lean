import Hiring.Office.Basic
import Hiring.Storage.Store

/-!
# Operations on the storage in memory

What each operation of the office gives, and what it leaves in the storage, when it runs from
start to end without others in between.  An operation is a script of calls, so this is read off
call by call, and afterwards no proof looks into a script again.

* `Operation.perform` — an operation at a time, without others in between.
* `Store.put`, `Store.post` — the storage with an applicant changed or added, and with a job added.
* `Office.verdictOn` — the verdict on a stored application.
* `Office.perform_createJob` … `Office.perform_applicantsFor` — the operations, one by one.
-/

set_option autoImplicit false

namespace Hiring

/-! ## Records in the storage -/

namespace Store

/-- The storage with an applicant put under its identifier. -/
def put (s : Store) (a : Applicant) : Store :=
  { s with applicants := s.applicants.insert a.id a }

/-- The storage with a job put under its identifier. -/
def post (s : Store) (job : JobPosting) : Store := { s with jobs := s.jobs.insert job.id job }

/-- The storage after an identifier of a job was drawn. -/
def drawJob (s : Store) : Store := { s with nextJob := s.nextJob + 1 }

/-- The storage after an identifier of an applicant was drawn. -/
def drawApplicant (s : Store) : Store := { s with nextApplicant := s.nextApplicant + 1 }

variable (s : Store) (a : Applicant) (job : JobPosting)

@[simp] theorem put_jobs : (s.put a).jobs = s.jobs := rfl

@[simp] theorem put_applicants : (s.put a).applicants = s.applicants.insert a.id a := rfl

@[simp] theorem put_nextJob : (s.put a).nextJob = s.nextJob := rfl

@[simp] theorem put_nextApplicant : (s.put a).nextApplicant = s.nextApplicant := rfl

@[simp] theorem post_jobs : (s.post job).jobs = s.jobs.insert job.id job := rfl

@[simp] theorem post_applicants : (s.post job).applicants = s.applicants := rfl

@[simp] theorem drawJob_jobs : s.drawJob.jobs = s.jobs := rfl

@[simp] theorem drawJob_applicants : s.drawJob.applicants = s.applicants := rfl

@[simp] theorem drawApplicant_jobs : s.drawApplicant.jobs = s.jobs := rfl

@[simp] theorem drawApplicant_applicants : s.drawApplicant.applicants = s.applicants := rfl

variable {s a}

/-- Putting what is there changes nothing. -/
theorem put_stored (h : s.applicants.get? a.id = some a) : s.put a = s := by
  have happlicants : s.applicants.insert a.id a = s.applicants := by
    refine Keyed.ext_get? fun key => ?_
    rw [Keyed.get?_insert]
    split
    · next hkey => rw [hkey, h]
    · rfl
  rw [put, happlicants]

/-- Of two applicants put under one identifier the later one stays. -/
theorem put_put {b : Applicant} (h : b.id = a.id) : (s.put a).put b = s.put b := by
  have happlicants :
      (s.applicants.insert a.id a).insert b.id b = s.applicants.insert b.id b := by
    refine Keyed.ext_get? fun key => ?_
    simp only [Keyed.get?_insert, h]
    split <;> rfl
  rw [put, put_applicants, happlicants]
  rfl

theorem get?_put {id : ApplicantId} (h : a.id = id) :
    (s.put a).applicants.get? id = some a := by
  rw [← h]
  exact Keyed.get?_insert_self _ _ _

@[simp] theorem get?_put_self : (s.put a).applicants.get? a.id = some a := get?_put rfl

@[simp] theorem contains_put_self : (s.put a).applicants.contains a.id = true :=
  Keyed.contains_of_get? get?_put_self

end Store

/-! ## Running an operation -/

namespace Operation

variable {α β : Type} (time : Timestamp) (s : Store)

/-- An operation at a time, without others in between: its result, and the storage after it. -/
def perform (op : Operation α) : Except OfficeError α × Store := Store.run time op.run s

theorem perform_pure (a : α) : (pure a : Operation α).perform time s = (.ok a, s) := rfl

/-- An operation goes on from the storage that the one before it left, unless that one failed. -/
theorem perform_bind (op : Operation α) (f : α → Operation β) :
    (op >>= f).perform time s =
      match op.perform time s with
      | (.ok a, s') => (f a).perform time s'
      | (.error e, s') => (.error e, s') := by
  have h : (op >>= f).perform time s =
      Script.runWith (Store.answer time) (ExceptT.bindCont f (op.perform time s).1)
        (op.perform time s).2 :=
    Script.runWith_bind (Store.answer time) op.run (ExceptT.bindCont f) s
  rw [h]
  obtain ⟨result, s'⟩ := op.perform time s
  cases result <;> rfl

theorem perform_require (e : Except InvalidInput α) :
    (require e).perform time s = (e.mapError OfficeError.invalid, s) := rfl

theorem perform_require_of_ok {e : Except InvalidInput α} {a : α} (valid : e = .ok a) :
    (require e).perform time s = (.ok a, s) := by
  rw [perform_require, valid]
  rfl

theorem perform_drawJobId :
    drawJobId.perform time s = (.ok (Store.jobIdOf s.nextJob), s.drawJob) := rfl

theorem perform_drawApplicantId :
    drawApplicantId.perform time s =
      (.ok (Store.applicantIdOf s.nextApplicant), s.drawApplicant) := rfl

theorem perform_now : now.perform time s = (.ok time, s) := rfl

theorem perform_insertJob (job : JobPosting) :
    (insertJob job).perform time s =
      if s.jobs.contains job.id then (.error (.storage .conflict), s)
      else (.ok job, s.post job) := by
  show ((s.answer time (.insertJob job)).1.mapError OfficeError.storage,
    (s.answer time (.insertJob job)).2) = _
  rw [Store.answer]
  split <;> rfl

theorem perform_fetchJob (id : JobId) :
    (fetchJob id).perform time s = (.ok (s.jobs.get? id), s) := rfl

theorem perform_listJobs : listJobs.perform time s = (.ok s.jobs.values, s) := rfl

theorem perform_insertApplicant (a : Applicant) :
    (insertApplicant a).perform time s =
      if s.applicants.contains a.id then (.error (.storage .conflict), s)
      else (.ok a, s.put a) := by
  show ((s.answer time (.insertApplicant a)).1.mapError OfficeError.storage,
    (s.answer time (.insertApplicant a)).2) = _
  rw [Store.answer]
  split <;> rfl

theorem perform_updateApplicant (a : Applicant) :
    (updateApplicant a).perform time s =
      if s.applicants.contains a.id then (.ok (), s.put a)
      else (.error (.storage .notFound), s) := by
  show ((s.answer time (.updateApplicant a)).1.mapError OfficeError.storage,
    (s.answer time (.updateApplicant a)).2) = _
  rw [Store.answer]
  split <;> rfl

theorem perform_fetchApplicant (id : ApplicantId) :
    (fetchApplicant id).perform time s = (.ok (s.applicants.get? id), s) := rfl

theorem perform_listApplicants (id : JobId) :
    (listApplicants id).perform time s =
      (.ok (s.applicants.values.filter (·.jobId == id)), s) := rfl

end Operation

/-! ## The operations of the office -/

namespace Office

open Operation

variable (o : Office) (time : Timestamp) (s : Store)

/-- The verdict on an application as it is stored. -/
def verdictOn (job : JobPosting) (a : Applicant) : Verdict :=
  o.screen job (a.answers.getD .null) a.score

@[simp] theorem enrol_id (sub : Submission) (job : JobPosting) (verdict : Option Verdict)
    (id : ApplicantId) : (enrol sub job verdict id time).id = id := rfl

@[simp] theorem withVerdict_id (a : Applicant) (v : Verdict) : (withVerdict a v).id = a.id := rfl

theorem perform_job (id : JobId) :
    (job id).perform time s =
      match s.jobs.get? id with
      | some job => (.ok job, s)
      | none => (.error (.jobNotFound id), s) := by
  rw [job, perform_bind, perform_fetchJob]
  cases s.jobs.get? id <;> rfl

theorem perform_jobs : jobs.perform time s = (.ok (sortJobs s.jobs.values), s) := by
  rw [jobs, perform_bind, perform_listJobs]
  rfl

theorem perform_createJob (draft : JobDraft) :
    (createJob draft).perform time s =
      match draft.validate with
      | .error e => (.error (.invalid e), s)
      | .ok () =>
        if s.jobs.contains (Store.jobIdOf s.nextJob) then (.error (.storage .conflict), s.drawJob)
        else
          (.ok (.ofDraft (Store.jobIdOf s.nextJob) draft),
            s.drawJob.post (.ofDraft (Store.jobIdOf s.nextJob) draft)) := by
  rw [createJob, perform_bind, perform_require]
  cases draft.validate with
  | error e => rfl
  | ok _ =>
    show (drawJobId >>= fun id => insertJob (.ofDraft id draft)).perform time s = _
    rw [perform_bind, perform_drawJobId]
    exact perform_insertJob time s.drawJob _

theorem perform_apply (sub : Submission) :
    (o.apply sub).perform time s =
      match sub.validate with
      | .error e => (.error (.invalid e), s)
      | .ok () =>
        match s.jobs.get? sub.jobId with
        | none => (.error (.jobNotFound sub.jobId), s)
        | some job =>
          let id := Store.applicantIdOf s.nextApplicant
          let verdict := o.firstVerdict job sub
          if s.applicants.contains id then (.error (.storage .conflict), s.drawApplicant)
          else
            (.ok ⟨enrol sub job verdict id time, verdict⟩,
              s.drawApplicant.put (enrol sub job verdict id time)) := by
  rw [apply, perform_bind, perform_require]
  cases sub.validate with
  | error e => rfl
  | ok _ =>
    show (job sub.jobId >>= _).perform time s = _
    rw [perform_bind, perform_job]
    cases s.jobs.get? sub.jobId with
    | none => rfl
    | some job =>
      simp only [perform_bind, perform_drawApplicantId, perform_now, perform_insertApplicant]
      by_cases h : s.applicants.contains (Store.applicantIdOf s.nextApplicant) = true
      · simp [h]
      · simp [h, perform_pure]

theorem perform_applicant (id : ApplicantId) :
    (applicant id).perform time s =
      match s.applicants.get? id with
      | some a => (.ok a, s)
      | none => (.error (.applicantNotFound id), s) := by
  rw [applicant, perform_bind, perform_fetchApplicant]
  cases s.applicants.get? id <;> rfl

theorem perform_rescreen (id : ApplicantId) :
    (o.rescreen id).perform time s =
      match s.applicants.get? id with
      | none => (.error (.applicantNotFound id), s)
      | some a =>
        match s.jobs.get? a.jobId with
        | none => (.error (.jobNotFound a.jobId), s)
        | some job =>
          if s.applicants.contains a.id then
            (.ok ⟨withVerdict a (o.verdictOn job a), o.verdictOn job a⟩,
              s.put (withVerdict a (o.verdictOn job a)))
          else (.error (.storage .notFound), s) := by
  rw [rescreen, perform_bind, perform_applicant]
  cases s.applicants.get? id with
  | none => rfl
  | some a =>
    simp only [perform_bind, perform_job]
    cases s.jobs.get? a.jobId with
    | none => rfl
    | some job =>
      simp only [perform_updateApplicant]
      by_cases h : s.applicants.contains a.id = true
      · simp [h, perform_pure, verdictOn]
      · simp [h]

theorem perform_tryScreening (id : JobId) (request : TrialRequest) :
    (o.tryScreening id request).perform time s =
      match s.jobs.get? id with
      | none => (.error (.jobNotFound id), s)
      | some job =>
        if job.isScreened then
          let screening := o.screener.screen job.criteria
            (AnswerMap.ofJson? (request.answers.getD .null)) request.score
          (.ok (.evaluated job.title request.answers (screening.processed.map AnswerMap.toJson)
            screening.verdict), s)
        else (.ok .noCriteria, s) := by
  rw [tryScreening, perform_bind, perform_job]
  cases s.jobs.get? id with
  | none => rfl
  | some job =>
    simp only
    split <;> rfl

theorem perform_moveTo (id : ApplicantId) (stage : Stage) :
    (moveTo id stage).perform time s =
      match s.applicants.get? id with
      | none => (.error (.applicantNotFound id), s)
      | some a =>
        if s.applicants.contains a.id then (.ok { a with stage }, s.put { a with stage })
        else (.error (.storage .notFound), s) := by
  rw [moveTo, perform_bind, perform_applicant]
  cases s.applicants.get? id with
  | none => rfl
  | some a =>
    simp only [perform_bind, perform_updateApplicant]
    by_cases h : s.applicants.contains a.id = true
    · simp [h, perform_pure]
    · simp [h]

theorem perform_applicantsFor (id : JobId) :
    (applicantsFor id).perform time s =
      match s.jobs.get? id with
      | none => (.error (.jobNotFound id), s)
      | some _ => (.ok (sortApplicants (s.applicants.values.filter (·.jobId == id))), s) := by
  rw [applicantsFor, perform_bind, perform_job]
  cases s.jobs.get? id with
  | none => rfl
  | some job =>
    simp only [perform_bind, perform_listApplicants]
    rfl

end Office

end Hiring
