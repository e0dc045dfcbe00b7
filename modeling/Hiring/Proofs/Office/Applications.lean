import Hiring.Proofs.Office.Requests

/-!
# One application through a run

What requests do, seen from one identifier of an applicant: an application comes in under it once,
and from then on its stage and what is stored of its screening may change, and nothing else.

* `Office.Change` — what a request can make of the application with an identifier;
  `Office.Effect.change` says that there is nothing else.
* `Applicant.SameForm` — two records differ at most in the stage and in the screening.
* `Office.run_keeps` — what requests of some sort keep, runs of such requests keep.
* `Office.run_job`, `Office.run_sameForm` — **postings stay as they are, and so does what an
  applicant has sent in.**
* `Office.createJob_returns`, `Office.apply_stores`, `Office.rescreen_returns`,
  `Office.moveTo_returns` — when a request succeeds, and what it answers and stores then.
-/

set_option autoImplicit false

namespace Hiring

namespace Office

/-! ## Runs -/

section Runs

variable {o : Office} {s : Store}

theorem run_append (first second : List (Timestamp × Request)) (s : Store) :
    o.run (first ++ second) s = o.run second (o.run first s) := List.foldl_append

/-- A run that goes on from a reachable storage leads to a reachable one. -/
theorem Reachable.run (reached : o.Reachable s) (requests : List (Timestamp × Request)) :
    o.Reachable (o.run requests s) := by
  obtain ⟨before, nextJob, nextApplicant, rfl⟩ := reached
  exact ⟨before ++ requests, nextJob, nextApplicant, (run_append _ _ _).symm⟩

theorem Reachable.handle (reached : o.Reachable s) (time : Timestamp) (r : Request) :
    o.Reachable (o.handle time r s).2 := reached.run [(time, r)]

/-- What requests of some sort keep of a reachable storage, a run of such requests keeps. -/
theorem run_keeps {Q : Request → Prop} {P : Store → Prop}
    (step : ∀ {time : Timestamp} {s s' : Store} {r : Request},
      Q r → s.Consistent → o.Effect time s r s' → P s → P s')
    {requests : List (Timestamp × Request)} (allowed : ∀ q ∈ requests, Q q.2)
    (reached : o.Reachable s) (start : P s) : P (o.run requests s) := by
  induction requests generalizing s with
  | nil => exact start
  | cons q rest ih =>
    have hfirst : P (o.handle q.1 q.2 s).2 :=
      step (allowed q (.head _)) reached.consistent (effect_handle q.2) start
    exact ih (fun q hq => allowed q (.tail _ hq)) (reached.handle q.1 q.2) hfirst

end Runs

/-! ## What becomes of one application -/

/-- What a request can make of the application with an identifier. -/
inductive Change (o : Office) (s : Store) (id : ApplicantId) : Request → Option Applicant → Prop
  | kept {r : Request} : Change o s id r (s.applicants.get? id)
  | enrolled {sub : Submission} {job : JobPosting} (time : Timestamp)
      (new : s.applicants.get? id = none) (listed : s.jobs.get? sub.jobId = some job) :
      Change o s id (.apply sub) (some (enrol sub job (o.firstVerdict job sub) id time))
  | rescreened {a : Applicant} {job : JobPosting} (stored : s.applicants.get? id = some a)
      (listed : s.jobs.get? a.jobId = some job) :
      Change o s id (.rescreen id) (some (withVerdict a (o.verdictOn job a)))
  | moved {a : Applicant} (stage : Stage) (stored : s.applicants.get? id = some a) :
      Change o s id (.moveTo id stage) (some { a with stage })

variable {o : Office} {time : Timestamp} {s s' : Store} {r : Request}

/-- **What a request makes of an application** is one of these. -/
theorem Effect.change (he : o.Effect time s r s') (hs : s.Consistent) (id : ApplicantId) :
    o.Change s id r (s'.applicants.get? id) := by
  cases he with
  | kept => exact .kept
  | jobRefused => exact .kept
  | applicantRefused => exact .kept
  | posted _ _ => exact .kept
  | enrolled _ listed fresh =>
    rw [Store.put_applicants, Keyed.get?_insert]
    split
    · next hid =>
      have hid' : id = Store.applicantIdOf s.nextApplicant := hid
      subst hid'
      exact .enrolled time fresh listed
    · exact .kept
  | @rescreened id' a job stored listed =>
    have hstored : a.id = id' := hs.applicant_id stored
    rw [Store.put_applicants, Keyed.get?_insert]
    split
    · next hid =>
      have hid' : id = id' := hid.trans hstored
      subst hid'
      exact .rescreened stored listed
    · exact .kept
  | @moved id' stage a stored =>
    have hstored : a.id = id' := hs.applicant_id stored
    rw [Store.put_applicants, Keyed.get?_insert]
    split
    · next hid =>
      have hid' : id = id' := hid.trans hstored
      subst hid'
      exact .moved stage stored
    · exact .kept

end Office

/-! ## What stays -/

/-- The records differ at most in the stage and in what is stored of a screening. -/
def Applicant.SameForm (a b : Applicant) : Prop :=
  b = { a with stage := b.stage, autoScreening := b.autoScreening, log := b.log }

theorem Applicant.SameForm.refl (a : Applicant) : a.SameForm a := rfl

theorem Applicant.SameForm.trans {a b c : Applicant} (hab : a.SameForm b) (hbc : b.SameForm c) :
    a.SameForm c := by
  rw [SameForm] at hab hbc ⊢
  rw [hbc, hab]

namespace Office

variable {o : Office} {s : Store}

/-- A verdict depends on the form alone. -/
theorem verdictOn_of_sameForm {a b : Applicant} (h : a.SameForm b) (job : JobPosting) :
    o.verdictOn job b = o.verdictOn job a := by
  rw [Applicant.SameForm] at h
  rw [h]
  rfl

theorem Change.sameForm {id : ApplicantId} {r : Request} {after : Option Applicant}
    (hc : o.Change s id r after) {a : Applicant} (stored : s.applicants.get? id = some a) :
    ∃ b, after = some b ∧ a.SameForm b := by
  cases hc with
  | kept => exact ⟨a, stored, .refl a⟩
  | enrolled _ new _ =>
    rw [new] at stored
    cases stored
  | rescreened stored' _ =>
    rw [stored, Option.some.injEq] at stored'
    subst stored'
    exact ⟨_, rfl, rfl⟩
  | moved stage stored' =>
    rw [stored, Option.some.injEq] at stored'
    subst stored'
    exact ⟨_, rfl, rfl⟩

theorem Effect.job_kept {time : Timestamp} {s' : Store} {r : Request} (he : o.Effect time s r s')
    {id : JobId} {job : JobPosting} (listed : s.jobs.get? id = some job) :
    s'.jobs.get? id = some job := by
  cases he with
  | posted _ fresh =>
    rw [Store.post_jobs, Keyed.get?_insert]
    split
    · next hid =>
      have hid' : id = Store.jobIdOf s.nextJob := hid
      rw [hid', fresh] at listed
      cases listed
    · exact listed
  | kept => exact listed
  | jobRefused => exact listed
  | applicantRefused => exact listed
  | enrolled _ _ _ => exact listed
  | rescreened _ _ => exact listed
  | moved _ => exact listed

/-- **Postings stay as they are.** -/
theorem run_job {id : JobId} {job : JobPosting} (listed : s.jobs.get? id = some job)
    (requests : List (Timestamp × Request)) : (o.run requests s).jobs.get? id = some job :=
  run_invariant (P := fun s => s.jobs.get? id = some job) (fun he h => he.job_kept h) requests
    listed

/-- **What an applicant has sent in stays as it is.** -/
theorem run_sameForm (reached : o.Reachable s) {id : ApplicantId} {a : Applicant}
    (stored : s.applicants.get? id = some a) (requests : List (Timestamp × Request)) :
    ∃ b, (o.run requests s).applicants.get? id = some b ∧ a.SameForm b := by
  refine run_keeps (Q := fun _ => True)
    (P := fun s => ∃ b, s.applicants.get? id = some b ∧ a.SameForm b) ?_ (fun _ _ => trivial)
    reached ⟨a, stored, .refl a⟩
  rintro time s s' r - hs he ⟨b, hb, hab⟩
  obtain ⟨c, hc, hbc⟩ := (he.change hs id).sameForm hb
  exact ⟨c, hc, hab.trans hbc⟩

/-! ## Requests that succeed -/

variable {time : Timestamp}

/-- A valid draft is opened under an identifier that is not in use. -/
theorem createJob_returns {draft : JobDraft} (valid : draft.validate = .ok ())
    (fresh : s.jobs.get? (Store.jobIdOf s.nextJob) = none) :
    (createJob draft).perform time s =
      (.ok (.ofDraft (Store.jobIdOf s.nextJob) draft),
        s.drawJob.post (.ofDraft (Store.jobIdOf s.nextJob) draft)) := by
  have hunused : ¬ s.jobs.contains (Store.jobIdOf s.nextJob) = true :=
    Keyed.not_contains_of_get? fresh
  rw [perform_createJob]
  simp only [valid, if_neg hunused]

/-- Opening a position fails and stores nothing, or the draft is valid and its identifier new. -/
theorem createJob_cases (time : Timestamp) (draft : JobDraft) (s : Store) :
    (∃ e, ((createJob draft).perform time s).1 = .error e ∧
      ((createJob draft).perform time s).2.jobs = s.jobs ∧
      ((createJob draft).perform time s).2.applicants = s.applicants) ∨
    draft.validate = .ok () ∧ s.jobs.get? (Store.jobIdOf s.nextJob) = none := by
  rw [perform_createJob]
  cases hv : draft.validate with
  | error e => exact .inl ⟨_, rfl, rfl, rfl⟩
  | ok _ =>
    cases hf : s.jobs.get? (Store.jobIdOf s.nextJob) with
    | none => exact .inr ⟨rfl, rfl⟩
    | some job =>
      simp only [if_pos (Keyed.contains_of_get? hf)]
      exact .inl ⟨_, rfl, rfl, rfl⟩

/-- A job that was opened has the criteria of its draft and is stored. -/
theorem createJob_ok {draft : JobDraft} {job : JobPosting}
    (opened : ((createJob draft).perform time s).1 = .ok job) :
    job.criteria = draft.criteria ∧
      ((createJob draft).perform time s).2.jobs.get? job.id = some job := by
  obtain ⟨e, hfails, -, -⟩ | ⟨valid, fresh⟩ := createJob_cases time draft s
  · rw [hfails] at opened
    cases opened
  · rw [createJob_returns valid fresh] at opened ⊢
    cases opened
    exact ⟨rfl, Keyed.get?_insert_self _ _ _⟩

/-- A submission that is complete is taken in under an identifier that is not in use. -/
theorem apply_stores {sub : Submission} {job : JobPosting} (valid : sub.validate = .ok ())
    (listed : s.jobs.get? sub.jobId = some job)
    (fresh : s.applicants.get? (Store.applicantIdOf s.nextApplicant) = none) :
    (o.apply sub).perform time s =
      (.ok ⟨enrol sub job (o.firstVerdict job sub) (Store.applicantIdOf s.nextApplicant) time,
          o.firstVerdict job sub⟩,
        s.drawApplicant.put (enrol sub job (o.firstVerdict job sub)
          (Store.applicantIdOf s.nextApplicant) time)) := by
  have hunused : ¬ s.applicants.contains (Store.applicantIdOf s.nextApplicant) = true :=
    Keyed.not_contains_of_get? fresh
  rw [perform_apply]
  simp only [valid, listed, if_neg hunused]

theorem apply_returns {sub : Submission} {job : JobPosting} (valid : sub.validate = .ok ())
    (listed : s.jobs.get? sub.jobId = some job)
    (fresh : s.applicants.get? (Store.applicantIdOf s.nextApplicant) = none) :
    ∃ receipt, ((o.apply sub).perform time s).1 = .ok receipt :=
  ⟨_, congrArg Prod.fst (apply_stores valid listed fresh)⟩

/-- Taking in an application fails and stores nothing, or the submission is complete, its job is
stored and its identifier new. -/
theorem apply_cases (o : Office) (time : Timestamp) (sub : Submission) (s : Store) :
    (∃ e, ((o.apply sub).perform time s).1 = .error e ∧
      ((o.apply sub).perform time s).2.jobs = s.jobs ∧
      ((o.apply sub).perform time s).2.applicants = s.applicants) ∨
    ∃ job, sub.validate = .ok () ∧ s.jobs.get? sub.jobId = some job ∧
      s.applicants.get? (Store.applicantIdOf s.nextApplicant) = none := by
  rw [perform_apply]
  cases hv : sub.validate with
  | error e => exact .inl ⟨_, rfl, rfl, rfl⟩
  | ok _ =>
    cases hj : s.jobs.get? sub.jobId with
    | none => exact .inl ⟨_, rfl, rfl, rfl⟩
    | some job =>
      cases hf : s.applicants.get? (Store.applicantIdOf s.nextApplicant) with
      | none => exact .inr ⟨job, rfl, rfl, rfl⟩
      | some a =>
        simp only [if_pos (Keyed.contains_of_get? hf)]
        exact .inl ⟨_, rfl, rfl, rfl⟩

/-- What an application that is taken in comes back with, and what is stored of it. -/
theorem apply_ok {sub : Submission} {receipt : Receipt}
    (applied : ((o.apply sub).perform time s).1 = .ok receipt) :
    ∃ job, s.jobs.get? sub.jobId = some job ∧
      receipt.verdict = o.firstVerdict job sub ∧
      receipt.applicant = enrol sub job (o.firstVerdict job sub) receipt.applicant.id time ∧
      ((o.apply sub).perform time s).2 = s.drawApplicant.put receipt.applicant := by
  obtain ⟨e, hfails, -, -⟩ | ⟨job, valid, listed, fresh⟩ := apply_cases o time sub s
  · rw [hfails] at applied
    cases applied
  · rw [apply_stores valid listed fresh] at applied ⊢
    cases applied
    exact ⟨job, listed, rfl, rfl, rfl⟩

/-- An application that is stored can be screened again. -/
theorem rescreen_returns (consistent : s.Consistent) {id : ApplicantId} {a : Applicant}
    {job : JobPosting} (stored : s.applicants.get? id = some a)
    (listed : s.jobs.get? a.jobId = some job) :
    (o.rescreen id).perform time s =
      (.ok ⟨withVerdict a (o.verdictOn job a), o.verdictOn job a⟩,
        s.put (withVerdict a (o.verdictOn job a))) := by
  have hused : s.applicants.contains a.id = true := by
    rw [consistent.applicant_id stored]
    exact Keyed.contains_of_get? stored
  rw [perform_rescreen]
  simp only [stored, listed, if_pos hused]

/-- An application that is stored can be moved. -/
theorem moveTo_returns (consistent : s.Consistent) {id : ApplicantId} {a : Applicant}
    (stored : s.applicants.get? id = some a) (stage : Stage) :
    (moveTo id stage).perform time s = (.ok { a with stage }, s.put { a with stage }) := by
  have hused : s.applicants.contains a.id = true := by
    rw [consistent.applicant_id stored]
    exact Keyed.contains_of_get? stored
  rw [perform_moveTo]
  simp only [stored, if_pos hused]

theorem rescreen_stored (consistent : s.Consistent) {id : ApplicantId} {a : Applicant}
    {job : JobPosting} (stored : s.applicants.get? id = some a)
    (listed : s.jobs.get? a.jobId = some job) :
    ((o.rescreen id).perform time s).2.applicants.get? id =
      some (withVerdict a (o.verdictOn job a)) := by
  have hid : a.id = id := consistent.applicant_id stored
  rw [rescreen_returns consistent stored listed]
  exact Store.get?_put hid

end Office

end Hiring
