import Hiring.Proofs.Office.Applications
import Hiring.Proofs.Office.Ledger
import Hiring.Proofs.Office.Validation

/-!
# When a request fails

Each request has its reasons to fail, and they can be told from what is asked for and from what is
stored.  That there are no others takes more than the request: a stored application must be stored
under its own identifier and its job be stored, or screening it again could miss the job, and the
identifiers that are drawn next must be free, or the storage could refuse an insertion.  Both is so
in every storage that requests lead to.

* `Office.Refusal` — a reason for a request to fail, and the error that says so.
* `Office.handle_of_refusal` — a request that has a reason to fail fails for it and leaves
  everything as it was.
* `Office.handle_returns` — a request that has none succeeds.
* `Office.failures_exact` — **requests fail for their reasons, only for them, and without a trace.**
-/

set_option autoImplicit false

namespace Hiring

/-! ## What a request asks for -/

namespace Request

/-- The application that a request asks for by its identifier. -/
def applicant? : Request → Option ApplicantId
  | .applicant id => some id
  | .rescreen id => some id
  | .moveTo id _ => some id
  | _ => none

/-- The job that a request asks for by its identifier. -/
def job? : Request → Option JobId
  | .job id => some id
  | .tryScreening id _ => some id
  | .applicantsFor id => some id
  | _ => none

/-- The request only asks what is stored, or what would come of a screening. -/
def isReading : Request → Bool
  | .job _ => true
  | .jobs => true
  | .applicant _ => true
  | .tryScreening _ _ => true
  | .applicantsFor _ => true
  | _ => false

theorem job?_of_applicant? {r : Request} {id : ApplicantId} (asked : r.applicant? = some id) :
    r.job? = none := by
  cases r with
  | applicant _ => rfl
  | rescreen _ => rfl
  | moveTo _ _ => rfl
  | _ => cases asked

end Request

namespace Office

/-! ## Reasons to fail -/

/-- A reason for a request to fail on a storage, and the error that says so. -/
inductive Refusal (s : Store) : Request → OfficeError → Prop
  | draft {draft : JobDraft} {e : InvalidInput} (fault : draft.Fault e) :
      Refusal s (.createJob draft) (.invalid e)
  | submission {sub : Submission} {e : InvalidInput} (fault : sub.Fault e) :
      Refusal s (.apply sub) (.invalid e)
  /-- A submission that has no fault of its own names a job that is not stored. -/
  | unlisted {sub : Submission} (complete : ∀ e, ¬ sub.Fault e)
      (unknown : s.jobs.get? sub.jobId = none) : Refusal s (.apply sub) (.jobNotFound sub.jobId)
  | job {r : Request} {id : JobId} (asked : r.job? = some id) (unknown : s.jobs.get? id = none) :
      Refusal s r (.jobNotFound id)
  | applicant {r : Request} {id : ApplicantId} (asked : r.applicant? = some id)
      (unknown : s.applicants.get? id = none) : Refusal s r (.applicantNotFound id)

variable {o : Office} {time : Timestamp} {s : Store} {r : Request} {e : OfficeError}

theorem refusal_createJob_iff {draft : JobDraft} :
    Refusal s (.createJob draft) e ↔ ∃ fault, draft.Fault fault ∧ e = .invalid fault := by
  constructor
  · intro h
    cases h with
    | draft fault => exact ⟨_, fault, rfl⟩
    | job asked _ => cases asked
    | applicant asked _ => cases asked
  · rintro ⟨e, fault, rfl⟩
    exact .draft fault

theorem refusal_apply_iff {sub : Submission} :
    Refusal s (.apply sub) e ↔
      (∃ fault, sub.Fault fault ∧ e = .invalid fault) ∨
      ((∀ fault, ¬ sub.Fault fault) ∧ s.jobs.get? sub.jobId = none ∧
        e = .jobNotFound sub.jobId) := by
  constructor
  · intro h
    cases h with
    | submission fault => exact .inl ⟨_, fault, rfl⟩
    | unlisted complete unknown => exact .inr ⟨complete, unknown, rfl⟩
    | job asked _ => cases asked
    | applicant asked _ => cases asked
  · rintro (⟨e, fault, rfl⟩ | ⟨complete, unknown, rfl⟩)
    · exact .submission fault
    · exact .unlisted complete unknown

theorem refusal_of_applicant? {id : ApplicantId} (asked : r.applicant? = some id) :
    Refusal s r e ↔ s.applicants.get? id = none ∧ e = .applicantNotFound id := by
  constructor
  · intro h
    cases h with
    | draft _ => cases asked
    | submission _ => cases asked
    | unlisted _ _ => cases asked
    | job asked' _ =>
      rw [Request.job?_of_applicant? asked] at asked'
      cases asked'
    | applicant asked' unknown =>
      rw [asked, Option.some.injEq] at asked'
      subst asked'
      exact ⟨unknown, rfl⟩
  · rintro ⟨unknown, rfl⟩
    exact .applicant asked unknown

theorem refusal_of_job? {id : JobId} (asked : r.job? = some id) :
    Refusal s r e ↔ s.jobs.get? id = none ∧ e = .jobNotFound id := by
  constructor
  · intro h
    cases h with
    | draft _ => cases asked
    | submission _ => cases asked
    | unlisted _ _ => cases asked
    | job asked' unknown =>
      rw [asked, Option.some.injEq] at asked'
      subst asked'
      exact ⟨unknown, rfl⟩
    | applicant asked' _ =>
      rw [Request.job?_of_applicant? asked'] at asked
      cases asked
  · rintro ⟨unknown, rfl⟩
    exact .job asked unknown

/-- A request for a job that is not stored fails and changes nothing. -/
theorem handle_of_unknown_job {id : JobId} (asked : r.job? = some id)
    (unknown : s.jobs.get? id = none) : o.handle time r s = (.error (.jobNotFound id), s) := by
  cases r with
  | job id' =>
    cases asked
    show (job id).perform time s = _
    rw [perform_job, unknown]
  | tryScreening id' trial =>
    cases asked
    show (o.tryScreening id trial).perform time s = _
    rw [perform_tryScreening, unknown]
  | applicantsFor id' =>
    cases asked
    show (applicantsFor id).perform time s = _
    rw [perform_applicantsFor, unknown]
  | _ => cases asked

/-- A request for an application that is not stored fails and changes nothing. -/
theorem handle_of_unknown_applicant {id : ApplicantId} (asked : r.applicant? = some id)
    (unknown : s.applicants.get? id = none) :
    o.handle time r s = (.error (.applicantNotFound id), s) := by
  cases r with
  | applicant id' =>
    cases asked
    show (applicant id).perform time s = _
    rw [perform_applicant, unknown]
  | rescreen id' =>
    cases asked
    show (o.rescreen id).perform time s = _
    rw [perform_rescreen, unknown]
  | moveTo id' stage =>
    cases asked
    show (moveTo id stage).perform time s = _
    rw [perform_moveTo, unknown]
  | _ => cases asked

/-- **A request with a reason to fail fails for it**, and everything is as it was: no identifier is
drawn before the reasons have been looked for. -/
theorem handle_of_refusal (h : Refusal s r e) : o.handle time r s = (.error e, s) := by
  cases h with
  | @draft draft e fault =>
    show (createJob draft).perform time s = _
    rw [perform_createJob, JobDraft.validate_eq_error_iff.2 fault]
  | @submission sub e fault =>
    show (o.apply sub).perform time s = _
    rw [perform_apply, Submission.validate_eq_error_iff.2 fault]
  | @unlisted sub complete unknown =>
    show (o.apply sub).perform time s = _
    rw [perform_apply, Submission.validate_eq_ok_iff.2 complete]
    simp only [unknown]
  | job asked unknown => exact handle_of_unknown_job asked unknown
  | applicant asked unknown => exact handle_of_unknown_applicant asked unknown

/-! ## No other reasons -/

theorem exists_job_of_no_refusal {id : JobId} (asked : r.job? = some id)
    (h : ∀ e, ¬ Refusal s r e) : ∃ job, s.jobs.get? id = some job :=
  Option.ne_none_iff_exists'.1 fun unknown => h _ (.job asked unknown)

theorem exists_applicant_of_no_refusal {id : ApplicantId} (asked : r.applicant? = some id)
    (h : ∀ e, ¬ Refusal s r e) : ∃ a, s.applicants.get? id = some a :=
  Option.ne_none_iff_exists'.1 fun unknown => h _ (.applicant asked unknown)

/-- **A request without a reason to fail succeeds**, if the identifiers that are drawn next are
free. -/
theorem handle_returns (consistent : s.Consistent) (fresh : ∀ k, k.idOf (s.next k) ∉ s.keys k)
    (h : ∀ e, ¬ Refusal s r e) : ∃ result, (o.handle time r s).1 = .ok result := by
  cases r with
  | createJob draft =>
    have hvalid : draft.validate = .ok () :=
      JobDraft.validate_eq_ok_iff.2 fun _ fault => h _ (.draft fault)
    have hfree := Keyed.get?_eq_none_of_not_mem_keys (fresh .jobs)
    exact ⟨_, congrArg Prod.fst (createJob_returns hvalid hfree)⟩
  | apply sub =>
    have hcomplete : ∀ e, ¬ sub.Fault e := fun e fault => h _ (.submission fault)
    obtain ⟨job, listed⟩ : ∃ job, s.jobs.get? sub.jobId = some job :=
      Option.ne_none_iff_exists'.1 fun unknown => h _ (.unlisted hcomplete unknown)
    exact apply_returns (Submission.validate_eq_ok_iff.2 hcomplete) listed
      (Keyed.get?_eq_none_of_not_mem_keys (fresh .applicants))
  | job id =>
    obtain ⟨job', listed⟩ := exists_job_of_no_refusal rfl h
    refine ⟨job', ?_⟩
    show ((job id).perform time s).1 = _
    rw [perform_job, listed]
  | jobs =>
    refine ⟨sortJobs s.jobs.values, ?_⟩
    show (jobs.perform time s).1 = _
    rw [perform_jobs]
  | applicant id =>
    obtain ⟨a, stored⟩ := exists_applicant_of_no_refusal rfl h
    refine ⟨a, ?_⟩
    show ((applicant id).perform time s).1 = _
    rw [perform_applicant, stored]
  | rescreen id =>
    obtain ⟨a, stored⟩ := exists_applicant_of_no_refusal rfl h
    obtain ⟨job, listed⟩ := consistent.job_stored stored
    exact ⟨_, congrArg Prod.fst (rescreen_returns consistent stored listed)⟩
  | tryScreening id trial =>
    obtain ⟨job, listed⟩ := exists_job_of_no_refusal rfl h
    show ∃ result, ((o.tryScreening id trial).perform time s).1 = .ok result
    rw [perform_tryScreening, listed]
    simp only
    split
    · exact ⟨_, rfl⟩
    · exact ⟨_, rfl⟩
  | moveTo id stage =>
    obtain ⟨a, stored⟩ := exists_applicant_of_no_refusal rfl h
    exact ⟨_, congrArg Prod.fst (moveTo_returns consistent stored stage)⟩
  | applicantsFor id =>
    obtain ⟨job, listed⟩ := exists_job_of_no_refusal rfl h
    refine ⟨sortApplicants (s.applicants.values.filter (·.jobId == id)), ?_⟩
    show ((applicantsFor id).perform time s).1 = _
    rw [perform_applicantsFor, listed]

/-- **Requests fail for their reasons and for no others.** -/
theorem handle_eq_error_iff (consistent : s.Consistent)
    (fresh : ∀ k, k.idOf (s.next k) ∉ s.keys k) :
    (o.handle time r s).1 = .error e ↔ Refusal s r e := by
  constructor
  · intro hfails
    by_contra hnot
    have hnone : ∀ e', ¬ Refusal s r e' := by
      intro e' h
      have hfails' : (o.handle time r s).1 = .error e' := by rw [handle_of_refusal h]
      rw [hfails, Except.error.injEq] at hfails'
      rw [← hfails'] at h
      exact hnot h
    have hsucceeds : ∃ result, (o.handle time r s).1 = .ok result :=
      handle_returns consistent fresh hnone
    obtain ⟨result, hreturns⟩ := hsucceeds
    rw [hfails] at hreturns
    cases hreturns
  · intro h
    rw [handle_of_refusal h]

/-! ## Requests that only read -/

theorem Effect.eq_of_isReading {s' : Store} (he : o.Effect time s r s') (h : r.isReading = true) :
    s' = s := by
  cases he with
  | kept => rfl
  | jobRefused => cases h
  | applicantRefused => cases h
  | posted _ _ => cases h
  | enrolled _ _ _ => cases h
  | rescreened _ _ => cases h
  | moved _ => cases h

/-! ## The whole account -/

/-- **Requests fail for their reasons, only for them, and without a trace.**  After any requests on
empty storages, handled one after the other, and unless a counter has come round: opening a position
fails exactly for a faulty draft, an application for its first blank field or else for a job that
is not stored, and what asks for an application or a job by its identifier fails exactly if nothing
is stored under it, with the error that names it.  The storage refuses nothing.  What fails, and
what only reads, leaves everything as it was. -/
theorem failures_exact (o : Office) (nextJob nextApplicant : UInt64)
    (requests : List (Timestamp × Request)) (s : Store)
    (reached : s = o.run requests (.emptyAt nextJob nextApplicant))
    (inRange : ∀ k,
      (issued k (o.transcript requests (.emptyAt nextJob nextApplicant))).length < 2 ^ 64)
    (time : Timestamp) :
    (∀ draft, (∃ e, (o.handle time (.createJob draft) s).1 = .error e) ↔ draft.Faulty) ∧
    (∀ sub e, (o.handle time (.apply sub) s).1 = .error e ↔
      (∃ fault, sub.Fault fault ∧ e = .invalid fault) ∨
      ((∀ fault, ¬ sub.Fault fault) ∧ s.jobs.get? sub.jobId = none ∧
        e = .jobNotFound sub.jobId)) ∧
    (∀ r id, r.applicant? = some id → ∀ e, (o.handle time r s).1 = .error e ↔
      s.applicants.get? id = none ∧ e = .applicantNotFound id) ∧
    (∀ r id, r.job? = some id → ∀ e, (o.handle time r s).1 = .error e ↔
      s.jobs.get? id = none ∧ e = .jobNotFound id) ∧
    (∀ e, (o.handle time .jobs s).1 ≠ .error e) ∧
    (∀ r e, (o.handle time r s).1 ≠ .error (.storage e)) ∧
    ∀ r, (r.isReading = true ∨ ∃ e, (o.handle time r s).1 = .error e) →
      (o.handle time r s).2 = s := by
  have hiff : ∀ r e, (o.handle time r s).1 = .error e ↔ Refusal s r e := by
    subst reached
    have hreached : o.Reachable (o.run requests (.emptyAt nextJob nextApplicant)) :=
      ⟨requests, nextJob, nextApplicant, rfl⟩
    exact fun r e => handle_eq_error_iff hreached.consistent (fresh_run inRange)
  refine ⟨fun draft => ?_, fun sub e => (hiff _ _).trans refusal_apply_iff,
    fun r id asked e => (hiff _ _).trans (refusal_of_applicant? asked),
    fun r id asked e => (hiff _ _).trans (refusal_of_job? asked), fun e hfails => ?_,
    fun r e hfails => ?_, fun r h => ?_⟩
  · rw [← JobDraft.exists_fault_iff]
    constructor
    · rintro ⟨e, hfails⟩
      obtain ⟨fault, hfault, -⟩ := refusal_createJob_iff.1 ((hiff _ _).1 hfails)
      exact ⟨fault, hfault⟩
    · rintro ⟨fault, hfault⟩
      exact ⟨.invalid fault, (hiff _ _).2 (.draft hfault)⟩
  · cases (hiff _ _).1 hfails with
    | job asked _ => cases asked
    | applicant asked _ => cases asked
  · cases (hiff _ _).1 hfails
  · rcases h with reads | ⟨e, hfails⟩
    · exact (effect_handle r).eq_of_isReading reads
    · rw [handle_of_refusal ((hiff _ _).1 hfails)]

/-- A position is open and an application has come in.  A draft that names one criterion twice is
refused; so is an application for another position, and screening an application that is not there
fails and changes nothing. -/
theorem failures_exact_unknown :
    ∃ s, s = run ⟨Screener.standard⟩
        [(⟨2024, 5, 1, 8, 0, 0, 0⟩, .createJob ⟨"Staf", "", "", "", []⟩),
          (⟨2024, 5, 2, 8, 0, 0, 0⟩,
            .apply ⟨"job-000001", "Ani", "ani@example.id", none, none, [], none, none⟩)]
        (.emptyAt 1 1) ∧
      s.keys .applicants = ["applicant-000001"] ∧
      (∃ e, (handle ⟨Screener.standard⟩ ⟨2024, 5, 3, 8, 0, 0, 0⟩ (.createJob ⟨"Kasir", "", "", "",
        [⟨"gelar", .text, "S1", true⟩, ⟨" gelar ", .text, "S2", false⟩]⟩) s).1 = .error e) ∧
      (handle ⟨Screener.standard⟩ ⟨2024, 5, 3, 8, 0, 0, 0⟩
        (.apply ⟨"job-000002", "Budi", "budi@example.id", none, none, [], none, none⟩) s).1 =
          .error (.jobNotFound "job-000002") ∧
      (handle ⟨Screener.standard⟩ ⟨2024, 5, 3, 8, 0, 0, 0⟩ (.rescreen "applicant-000002") s).1 =
        .error (.applicantNotFound "applicant-000002") ∧
      (handle ⟨Screener.standard⟩ ⟨2024, 5, 3, 8, 0, 0, 0⟩ (.rescreen "applicant-000002") s).2 =
        s := by
  refine ⟨_, rfl, by decide +kernel, ?_⟩
  have inRange : ∀ k, (issued k (transcript ⟨Screener.standard⟩
      [(⟨2024, 5, 1, 8, 0, 0, 0⟩, .createJob ⟨"Staf", "", "", "", []⟩),
        (⟨2024, 5, 2, 8, 0, 0, 0⟩,
          .apply ⟨"job-000001", "Ani", "ani@example.id", none, none, [], none, none⟩)]
      (.emptyAt 1 1))).length < 2 ^ 64 := by
    intro k
    cases k with
    | jobs => decide +kernel
    | applicants => decide +kernel
  obtain ⟨hdraft, hsub, happlicant, -, -, -, htrace⟩ :=
    failures_exact ⟨Screener.standard⟩ 1 1 _ _ rfl inRange ⟨2024, 5, 3, 8, 0, 0, 0⟩
  have hunknown := (happlicant (.rescreen "applicant-000002") _ rfl _).2
    ⟨Option.isNone_iff_eq_none.1 (by decide +kernel), rfl⟩
  refine ⟨(hdraft _).2 (.inr (.inr (by decide +kernel))), (hsub _ _).2 (.inr ⟨?_, ?_, rfl⟩),
    hunknown, htrace _ (.inr ⟨_, hunknown⟩)⟩
  · intro fault hfault
    cases hfault with
    | jobId nothing => exact absurd nothing (by decide +kernel)
    | name _ nothing => exact absurd nothing (by decide +kernel)
    | email _ _ nothing => exact absurd nothing (by decide +kernel)
  · exact Option.isNone_iff_eq_none.1 (by decide +kernel)

end Office

end Hiring
