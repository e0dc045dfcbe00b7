import Hiring.Proofs.Office.Operations

/-!
# Runs of requests

An office answers requests one after the other, each at its time.  Whatever holds of an empty
storage and is kept by each request holds after every run, and to see what a request keeps it is
enough to look at what it can leave behind.

* `Request`, `Office.handle`, `Office.run` — a request, and one or many of them handled.
* `Office.Effect` — what a request can leave in the storage; `Office.effect_handle` says that
  there is nothing else.
* `Office.Reachable` — the storages that runs from an empty one lead to; `Reachable.invariant`
  goes from one request to all of them.
* `Store.Consistent` — records are stored under their own identifiers, and an applicant's job is
  stored; this is so in every reachable storage (`Office.Reachable.consistent`).
-/

set_option autoImplicit false

namespace Hiring

/-! ## Requests -/

/-- What an office can be asked for. -/
inductive Request where
  | createJob (draft : JobDraft)
  | job (id : JobId)
  | jobs
  | apply (submission : Submission)
  | applicant (id : ApplicantId)
  | rescreen (id : ApplicantId)
  | tryScreening (id : JobId) (trial : TrialRequest)
  | moveTo (id : ApplicantId) (stage : Stage)
  | applicantsFor (id : JobId)

/-- What a request is answered with, unless it fails. -/
@[reducible] def Request.Result : Request → Type
  | .createJob _ => JobPosting
  | .job _ => JobPosting
  | .jobs => List JobPosting
  | .apply _ => Receipt
  | .applicant _ => Applicant
  | .rescreen _ => Rescreening
  | .tryScreening _ _ => Trial
  | .moveTo _ _ => Applicant
  | .applicantsFor _ => List Applicant

/-- The storage without records, whose next identifiers have the given numbers. -/
def Store.emptyAt (nextJob nextApplicant : UInt64) : Store :=
  ⟨.empty, .empty, nextJob, nextApplicant⟩

namespace Office

/-- The operation that a request asks for. -/
def operation (o : Office) : (r : Request) → Operation r.Result
  | .createJob draft => createJob draft
  | .job id => job id
  | .jobs => jobs
  | .apply submission => o.apply submission
  | .applicant id => applicant id
  | .rescreen id => o.rescreen id
  | .tryScreening id trial => o.tryScreening id trial
  | .moveTo id stage => moveTo id stage
  | .applicantsFor id => applicantsFor id

/-- A request handled at a time: its answer, and the storage after it. -/
def handle (o : Office) (time : Timestamp) (r : Request) (s : Store) :
    Except OfficeError r.Result × Store :=
  (o.operation r).perform time s

/-- The storage after requests that were handled one after the other, each at its time. -/
def run (o : Office) (requests : List (Timestamp × Request)) (s : Store) : Store :=
  requests.foldl (fun s request => (o.handle request.1 request.2 s).2) s

/-! ## What a request leaves behind -/

/-- What a request can leave in the storage `s`. -/
inductive Effect (o : Office) (time : Timestamp) (s : Store) : Request → Store → Prop
  /-- Everything is as it was. -/
  | kept {r : Request} : Effect o time s r s
  /-- The identifier that was drawn for a job is in use. -/
  | jobRefused {draft : JobDraft} : Effect o time s (.createJob draft) s.drawJob
  /-- The identifier that was drawn for an applicant is in use. -/
  | applicantRefused {sub : Submission} : Effect o time s (.apply sub) s.drawApplicant
  | posted {draft : JobDraft} (valid : draft.validate = .ok ())
      (fresh : s.jobs.get? (Store.jobIdOf s.nextJob) = none) :
      Effect o time s (.createJob draft)
        (s.drawJob.post (.ofDraft (Store.jobIdOf s.nextJob) draft))
  | enrolled {sub : Submission} {job : JobPosting} (valid : sub.validate = .ok ())
      (listed : s.jobs.get? sub.jobId = some job)
      (fresh : s.applicants.get? (Store.applicantIdOf s.nextApplicant) = none) :
      Effect o time s (.apply sub)
        (s.drawApplicant.put (enrol sub job (o.firstVerdict job sub)
          (Store.applicantIdOf s.nextApplicant) time))
  | rescreened {id : ApplicantId} {a : Applicant} {job : JobPosting}
      (stored : s.applicants.get? id = some a) (listed : s.jobs.get? a.jobId = some job) :
      Effect o time s (.rescreen id) (s.put (withVerdict a (o.verdictOn job a)))
  | moved {id : ApplicantId} {stage : Stage} {a : Applicant}
      (stored : s.applicants.get? id = some a) :
      Effect o time s (.moveTo id stage) (s.put { a with stage })

variable {o : Office} {time : Timestamp} {s : Store}

theorem effect_createJob (draft : JobDraft) :
    o.Effect time s (.createJob draft) ((createJob draft).perform time s).2 := by
  rw [perform_createJob]
  cases hv : draft.validate with
  | error e => exact .kept
  | ok _ =>
    cases hf : s.jobs.get? (Store.jobIdOf s.nextJob) with
    | some job => simpa [Keyed.contains, hf] using .jobRefused
    | none => simpa [Keyed.contains, hf] using .posted hv hf

theorem effect_apply (sub : Submission) :
    o.Effect time s (.apply sub) ((o.apply sub).perform time s).2 := by
  rw [perform_apply]
  cases hv : sub.validate with
  | error e => exact .kept
  | ok _ =>
    cases hj : s.jobs.get? sub.jobId with
    | none => exact .kept
    | some job =>
      cases hf : s.applicants.get? (Store.applicantIdOf s.nextApplicant) with
      | some a => simpa [Keyed.contains, hf] using .applicantRefused
      | none => simpa [Keyed.contains, hf] using .enrolled hv hj hf

theorem effect_rescreen (id : ApplicantId) :
    o.Effect time s (.rescreen id) ((o.rescreen id).perform time s).2 := by
  rw [perform_rescreen]
  cases ha : s.applicants.get? id with
  | none => exact .kept
  | some a =>
    simp only
    cases hj : s.jobs.get? a.jobId with
    | none => exact .kept
    | some job =>
      simp only
      split
      · exact .rescreened ha hj
      · exact .kept

theorem effect_moveTo (id : ApplicantId) (stage : Stage) :
    o.Effect time s (.moveTo id stage) ((moveTo id stage).perform time s).2 := by
  rw [perform_moveTo]
  cases ha : s.applicants.get? id with
  | none => exact .kept
  | some a =>
    simp only
    split
    · exact .moved ha
    · exact .kept

theorem effect_of_eq {r : Request} {s' : Store} (h : s' = s) : o.Effect time s r s' := by
  rw [h]
  exact .kept

/-- **What a request leaves behind** is one of its effects. -/
theorem effect_handle (r : Request) : o.Effect time s r (o.handle time r s).2 := by
  cases r with
  | createJob draft => exact effect_createJob draft
  | apply sub => exact effect_apply sub
  | rescreen id => exact effect_rescreen id
  | moveTo id stage => exact effect_moveTo id stage
  | job id =>
    refine effect_of_eq ?_
    show ((job id).perform time s).2 = s
    rw [perform_job]
    split <;> rfl
  | jobs =>
    refine effect_of_eq ?_
    show (jobs.perform time s).2 = s
    rw [perform_jobs]
  | applicant id =>
    refine effect_of_eq ?_
    show ((applicant id).perform time s).2 = s
    rw [perform_applicant]
    split <;> rfl
  | tryScreening id trial =>
    refine effect_of_eq ?_
    show ((o.tryScreening id trial).perform time s).2 = s
    rw [perform_tryScreening]
    split
    · rfl
    · split <;> rfl
  | applicantsFor id =>
    refine effect_of_eq ?_
    show ((applicantsFor id).perform time s).2 = s
    rw [perform_applicantsFor]
    split <;> rfl

/-- What each request keeps, a run keeps. -/
theorem run_invariant {P : Store → Prop}
    (step : ∀ {time : Timestamp} {s s' : Store} {r : Request}, o.Effect time s r s' → P s → P s')
    (requests : List (Timestamp × Request)) {s : Store} (start : P s) : P (o.run requests s) := by
  induction requests generalizing s with
  | nil => exact start
  | cons request rest ih => exact ih (step (effect_handle request.2) start)

/-- Some run leads from an empty storage to this one. -/
def Reachable (o : Office) (s : Store) : Prop :=
  ∃ (requests : List (Timestamp × Request)) (nextJob nextApplicant : UInt64),
    s = o.run requests (.emptyAt nextJob nextApplicant)

/-- **What empty storages have and each request keeps, all reachable storages have.** -/
theorem Reachable.invariant {P : Store → Prop} (reached : o.Reachable s)
    (start : ∀ nextJob nextApplicant : UInt64, P (.emptyAt nextJob nextApplicant))
    (step : ∀ {time : Timestamp} {s s' : Store} {r : Request}, o.Effect time s r s' → P s → P s') :
    P s := by
  obtain ⟨requests, nextJob, nextApplicant, rfl⟩ := reached
  exact run_invariant step requests (start nextJob nextApplicant)

end Office

/-! ## Records under their own identifiers -/

/-- Records are stored under their own identifiers, and the job of an applicant is stored. -/
structure Store.Consistent (s : Store) : Prop where
  job_id : ∀ {id job}, s.jobs.get? id = some job → job.id = id
  applicant_id : ∀ {id a}, s.applicants.get? id = some a → a.id = id
  job_stored : ∀ {id a}, s.applicants.get? id = some a → ∃ job, s.jobs.get? a.jobId = some job

namespace Store

theorem consistent_emptyAt (nextJob nextApplicant : UInt64) :
    (emptyAt nextJob nextApplicant).Consistent := by
  constructor <;> simp [emptyAt]

/-- A job can be added. -/
theorem Consistent.post {s : Store} (h : s.Consistent) (job : JobPosting) :
    (s.post job).Consistent where
  job_id := by
    intro id job' hj
    rw [post_jobs, Keyed.get?_insert] at hj
    split at hj
    · next hid =>
      rw [Option.some.injEq] at hj
      rw [← hj, hid]
    · exact h.job_id hj
  applicant_id := h.applicant_id
  job_stored := by
    intro id a ha
    obtain ⟨job', hj⟩ := h.job_stored ha
    rw [post_jobs, Keyed.get?_insert]
    split
    · exact ⟨job, rfl⟩
    · exact ⟨job', hj⟩

/-- An applicant whose job is stored can be added or changed. -/
theorem Consistent.put {s : Store} (h : s.Consistent) {a : Applicant} {job : JobPosting}
    (hj : s.jobs.get? a.jobId = some job) : (s.put a).Consistent where
  job_id := h.job_id
  applicant_id := by
    intro id a' ha
    rw [put_applicants, Keyed.get?_insert] at ha
    split at ha
    · next hid =>
      rw [Option.some.injEq] at ha
      rw [← ha, hid]
    · exact h.applicant_id ha
  job_stored := by
    intro id a' ha
    rw [put_applicants, Keyed.get?_insert] at ha
    split at ha
    · rw [Option.some.injEq] at ha
      rw [← ha]
      exact ⟨job, hj⟩
    · exact h.job_stored ha

theorem Consistent.drawJob {s : Store} (h : s.Consistent) : s.drawJob.Consistent :=
  ⟨h.job_id, h.applicant_id, h.job_stored⟩

theorem Consistent.drawApplicant {s : Store} (h : s.Consistent) : s.drawApplicant.Consistent :=
  ⟨h.job_id, h.applicant_id, h.job_stored⟩

end Store

namespace Office

variable {o : Office} {time : Timestamp} {s s' : Store} {r : Request}

theorem Effect.consistent (he : o.Effect time s r s') (h : s.Consistent) : s'.Consistent := by
  cases he with
  | kept => exact h
  | jobRefused => exact h.drawJob
  | applicantRefused => exact h.drawApplicant
  | posted _ _ => exact h.drawJob.post _
  | enrolled _ hj _ =>
    have hid := h.job_id hj
    rw [← hid] at hj
    exact h.drawApplicant.put hj
  | rescreened _ hj => exact h.put hj
  | moved ha =>
    obtain ⟨job, hj⟩ := h.job_stored ha
    exact h.put hj

/-- **Every reachable storage is consistent.** -/
theorem Reachable.consistent (reached : o.Reachable s) : s.Consistent :=
  reached.invariant Store.consistent_emptyAt fun he h => he.consistent h

end Office

end Hiring
