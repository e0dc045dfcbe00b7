import Hiring.Proofs.Office.Requests
import Hiring.Proofs.Verdict.Buckets

/-!
# What is stored of a screening

An application is stored with the status and the log of its last screening.  Neither is ever out
of date: the posting, the answers and the score that a verdict depends on are not changed by any
request, so the stored result is the one that screening would give now.

* `Applicant.Unscreened`, `Applicant.Carries` — nothing is stored of a screening, or just the
  given verdict is.
* `Office.Current` — what is stored is nothing, or the verdict that the office would give now.
* `Office.Reachable.allCurrent` — **all stored applications are current.**
* `Office.stored_screening` — the same spelled out, and the status read off the stored log.
-/

set_option autoImplicit false

namespace Hiring

/-! ## What is stored -/

namespace Applicant

/-- Nothing is stored of a screening. -/
def Unscreened (a : Applicant) : Prop := a.autoScreening = .pending ∧ a.log = none

/-- The status and the log of the verdict are stored. -/
def Carries (a : Applicant) (v : Verdict) : Prop :=
  a.log = some v.log ∧ a.autoScreening = .ofStatus v.status

variable {a : Applicant}

theorem Unscreened.status_iff (h : a.Unscreened) :
    (a.autoScreening = .tidakLolos ↔ ∃ log, a.log = some log ∧ log.failed ≠ []) ∧
    (a.autoScreening = .lolos ↔ ∃ log, a.log = some log ∧ log.failed = []) := by
  rw [h.1, h.2]
  simp

/-- The status can be read off a log that tells rejections by its failures. -/
theorem Carries.status_iff {v : Verdict} (h : a.Carries v)
    (hv : v.status = .tidakLolos ↔ v.log.failed ≠ []) :
    (a.autoScreening = .tidakLolos ↔ ∃ log, a.log = some log ∧ log.failed ≠ []) ∧
    (a.autoScreening = .lolos ↔ ∃ log, a.log = some log ∧ log.failed = []) := by
  obtain ⟨hlog, hstatus⟩ := h
  simp only [hlog, hstatus, Option.some.injEq, exists_eq_left']
  cases hs : v.status with
  | lolos => simpa [AutoScreening.ofStatus, hs] using hv
  | tidakLolos => simpa [AutoScreening.ofStatus, hs] using hv

end Applicant

/-- Missing answers and answers that are no object count as none. -/
theorem AnswerMap.ofJson?_getD_null (answers : Option Json) :
    ofJson? (answers.getD .null) = answers.bind ofJson? := by
  cases answers <;> rfl

theorem Screener.status_screen_iff_failed (s : Screener) (criteria : List Criterion)
    (answers : Option AnswerMap) (score : Option Binary64) :
    (s.screen criteria answers score).verdict.status = .tidakLolos ↔
      (s.screen criteria answers score).verdict.log.failed ≠ [] := by
  cases score with
  | some x => exact Verdict.status_ofOutcomes_iff_failed _
  | none => exact Verdict.status_ofOutcomes_iff_failed _

/-! ## The verdict that is due -/

namespace Office

variable {o : Office} {job : JobPosting} {a : Applicant}

theorem verdictOn_eq :
    o.verdictOn job a =
      (o.screener.screen job.criteria (a.answers.bind AnswerMap.ofJson?) a.score).verdict := by
  rw [verdictOn, screen, AnswerMap.ofJson?_getD_null]

/-- What is stored is nothing, or the verdict that the office would give now. -/
def Current (o : Office) (job : JobPosting) (a : Applicant) : Prop :=
  a.Unscreened ∨ a.Carries (o.verdictOn job a)

/-- A screening stores the verdict, which does not depend on what is stored of a screening. -/
theorem current_withVerdict : o.Current job (withVerdict a (o.verdictOn job a)) :=
  .inr ⟨rfl, rfl⟩

/-- An application that comes in is screened with the answers that are stored, or not at all. -/
theorem current_enrol {sub : Submission} {id : ApplicantId} {time : Timestamp} :
    o.Current job (enrol sub job (o.firstVerdict job sub) id time) := by
  by_cases hs : job.isScreened = true
  · cases ha : sub.answers with
    | none =>
      refine .inl ?_
      simp [Applicant.Unscreened, enrol, firstVerdict, ha]
    | some answers =>
      refine .inr ?_
      simp [Applicant.Carries, enrol, firstVerdict, verdictOn, hs, ha]
  · refine .inl ?_
    simp [Applicant.Unscreened, enrol, firstVerdict, hs]

/-- All stored applications are current. -/
def AllCurrent (o : Office) (s : Store) : Prop :=
  ∀ (id : ApplicantId) (a : Applicant) (job : JobPosting),
    s.applicants.get? id = some a → s.jobs.get? a.jobId = some job → o.Current job a

theorem AllCurrent.put {s : Store} {a : Applicant} (h : o.AllCurrent s)
    (hj : s.jobs.get? a.jobId = some job)
    (ha : o.Current job a) : o.AllCurrent (s.put a) := by
  intro id a' job' ha' hj'
  rw [Store.put_applicants, Keyed.get?_insert] at ha'
  split at ha'
  · rw [Option.some.injEq] at ha'
    subst ha'
    rw [Store.put_jobs, hj, Option.some.injEq] at hj'
    rw [← hj']
    exact ha
  · exact h id a' job' ha' hj'

/-- A job that is added is the job of no stored application. -/
theorem AllCurrent.post {s : Store} (hs : s.Consistent) (h : o.AllCurrent s)
    (fresh : s.jobs.get? job.id = none) : o.AllCurrent (s.post job) := by
  intro id a' job' ha' hj'
  obtain ⟨known, hk⟩ := hs.job_stored ha'
  have hne : a'.jobId ≠ job.id := by
    intro he
    rw [he, fresh] at hk
    cases hk
  rw [Store.post_jobs, Keyed.get?_insert_of_ne _ _ hne] at hj'
  exact h id a' job' ha' hj'

theorem Effect.allCurrent {time : Timestamp} {s s' : Store} {r : Request}
    (he : o.Effect time s r s') (hs : s.Consistent) (h : o.AllCurrent s) : o.AllCurrent s' := by
  cases he with
  | kept => exact h
  | jobRefused => exact h
  | applicantRefused => exact h
  | @posted draft _ fresh =>
    have hfresh : s.drawJob.jobs.get? (JobPosting.ofDraft (Store.jobIdOf s.nextJob) draft).id =
        none := fresh
    exact AllCurrent.post hs.drawJob h hfresh
  | @enrolled sub job' _ hj _ =>
    have hstored : s.drawApplicant.jobs.get? job'.id = some job' := by
      rw [hs.job_id hj]
      exact hj
    exact AllCurrent.put (a := enrol _ _ _ _ _) h hstored current_enrol
  | rescreened _ hj => exact h.put hj current_withVerdict
  | @moved id stage a ha =>
    obtain ⟨job', hj⟩ := hs.job_stored ha
    exact h.put hj (h id a job' ha hj)

/-- **In every reachable storage all applications are current.** -/
theorem Reachable.allCurrent {s : Store} (reached : o.Reachable s) : o.AllCurrent s := by
  refine (reached.invariant (P := fun s => s.Consistent ∧ o.AllCurrent s) ?_ ?_).2
  · refine fun nextJob nextApplicant => ⟨Store.consistent_emptyAt nextJob nextApplicant, ?_⟩
    intro id a job ha _
    simp [Store.emptyAt] at ha
  · rintro time s s' r he ⟨hs, h⟩
    exact ⟨he.consistent hs, he.allCurrent hs h⟩

/-- **What is stored of a screening is never out of date.**  In every reachable storage an
application has a stored job, and either nothing is stored of a screening or the log and the status
of the verdict that screening its answers and its score gives now.  The status is the one that the
stored log shows. -/
theorem stored_screening (o : Office) (s : Store) (reached : o.Reachable s) (id : ApplicantId)
    (a : Applicant) (stored : s.applicants.get? id = some a) :
    ∃ job, s.jobs.get? a.jobId = some job ∧
      (a.Unscreened ∨ a.Carries
        (o.screener.screen job.criteria (a.answers.bind AnswerMap.ofJson?) a.score).verdict) ∧
      (a.autoScreening = .tidakLolos ↔ ∃ log, a.log = some log ∧ log.failed ≠ []) ∧
      (a.autoScreening = .lolos ↔ ∃ log, a.log = some log ∧ log.failed = []) := by
  obtain ⟨job, hj⟩ := reached.consistent.job_stored stored
  have hcurrent := reached.allCurrent id a job stored hj
  rw [Current, verdictOn_eq] at hcurrent
  refine ⟨job, hj, hcurrent, ?_⟩
  rcases hcurrent with hu | hc
  · exact hu.status_iff
  · exact hc.status_iff (Screener.status_screen_iff_failed _ _ _ _)

/-- An applicant who was rejected, then hired by hand, then screened once more. -/
theorem stored_screening_hired :
    ∃ (s : Store) (a : Applicant) (job : JobPosting),
      s = run ⟨Screener.standard⟩
        [(⟨2024, 5, 1, 8, 0, 0, 0⟩,
            .createJob ⟨"Staf", "", "", "", [⟨"gelar", .text, "S1, S2", true⟩]⟩),
          (⟨2024, 5, 2, 8, 0, 0, 0⟩, .apply ⟨"job-000001", "Ani", "ani@example.id", none, none, [],
            some (.object [("gelar", .string "S3")]), none⟩),
          (⟨2024, 5, 3, 8, 0, 0, 0⟩, .moveTo "applicant-000001" .hired),
          (⟨2024, 5, 4, 8, 0, 0, 0⟩, .rescreen "applicant-000001")] (.emptyAt 1 1) ∧
      s.applicants.get? "applicant-000001" = some a ∧ s.jobs.get? a.jobId = some job ∧
      (a.Unscreened ∨ a.Carries (Screener.standard.screen job.criteria
        (a.answers.bind AnswerMap.ofJson?) a.score).verdict) ∧
      (a.autoScreening = .tidakLolos ↔ ∃ log, a.log = some log ∧ log.failed ≠ []) ∧
      (a.autoScreening = .lolos ↔ ∃ log, a.log = some log ∧ log.failed = []) := by
  have hsome : ((run ⟨Screener.standard⟩
        [(⟨2024, 5, 1, 8, 0, 0, 0⟩,
            .createJob ⟨"Staf", "", "", "", [⟨"gelar", .text, "S1, S2", true⟩]⟩),
          (⟨2024, 5, 2, 8, 0, 0, 0⟩, .apply ⟨"job-000001", "Ani", "ani@example.id", none, none, [],
            some (.object [("gelar", .string "S3")]), none⟩),
          (⟨2024, 5, 3, 8, 0, 0, 0⟩, .moveTo "applicant-000001" .hired),
          (⟨2024, 5, 4, 8, 0, 0, 0⟩, .rescreen "applicant-000001")]
        (.emptyAt 1 1)).applicants.get? "applicant-000001").isSome = true := by
    decide +kernel
  obtain ⟨a, ha⟩ := Option.isSome_iff_exists.1 hsome
  obtain ⟨job, hj, hcurrent⟩ := stored_screening ⟨Screener.standard⟩ _ ⟨_, 1, 1, rfl⟩ _ a ha
  exact ⟨_, a, job, rfl, ha, hj, hcurrent⟩

end Office

end Hiring
