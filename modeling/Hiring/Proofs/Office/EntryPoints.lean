import Hiring.Proofs.Office.Applications
import Hiring.Proofs.Office.StoredScreening

/-!
# One verdict at every entry

The same criteria, answers and score can be screened in four ways: without a stored job, as a trial
for a job, when an application comes in, and again when it is stored.  Each way fetches them from
somewhere else, the last one after any number of other requests.

* `Screener.report` is taken as the measure.
* `Office.firstVerdict_eq`, `Office.verdictOn_enrol` — the first verdict on an application, and the
  verdict on the record of it, against the report.
* `Office.entry_points_agree` — **all four give one verdict**, and the trial and the report give the
  same retyped answers.
-/

set_option autoImplicit false

namespace Hiring

namespace Office

variable (o : Office)

/-! ## Each way by itself -/

/-- Answers that are none count as answers that are no object. -/
theorem screen_getD_eq (job : JobPosting) (answers : Option Json) (score : Option Binary64) :
    o.screen job (answers.getD .null) score =
      (o.screener.report ⟨job.criteria, answers, score⟩).result := by
  rw [screen, AnswerMap.ofJson?_getD_null]
  rfl

theorem isScreened_of_ne_nil {job : JobPosting} (hasCriteria : job.criteria ≠ []) :
    job.isScreened = true := by
  rw [JobPosting.isScreened, Bool.not_eq_true', List.isEmpty_eq_false_iff]
  exact hasCriteria

theorem firstVerdict_eq {job : JobPosting} (hasCriteria : job.criteria ≠ []) {sub : Submission}
    {answers : Json} (hanswers : sub.answers = some answers) :
    o.firstVerdict job sub =
      some (o.screener.report ⟨job.criteria, some answers, sub.score⟩).result := by
  rw [firstVerdict, if_pos (isScreened_of_ne_nil hasCriteria), hanswers]
  exact congrArg some (screen_getD_eq o job (some answers) sub.score)

theorem verdictOn_enrol (job : JobPosting) (sub : Submission) (verdict : Option Verdict)
    (id : ApplicantId) (time : Timestamp) :
    o.verdictOn job (enrol sub job verdict id time) =
      (o.screener.report ⟨job.criteria, sub.answers, sub.score⟩).result :=
  screen_getD_eq o job sub.answers sub.score

variable {o} {s : Store} {time : Timestamp}

/-- **Screening again, at any later time, gives the verdict of the report.**  The record has been
through other requests, but what the verdict depends on has not changed. -/
theorem rescreen_later (reached : o.Reachable s) {job : JobPosting}
    (listed : s.jobs.get? job.id = some job) {a : Applicant} {sub : Submission}
    {verdict : Option Verdict} (enrolled : a = enrol sub job verdict a.id time)
    (stored : s.applicants.get? a.id = some a) (later : List (Timestamp × Request))
    (time' : Timestamp) :
    ∃ b, ((o.rescreen a.id).perform time' (o.run later s)).1 =
      .ok ⟨b, (o.screener.report ⟨job.criteria, sub.answers, sub.score⟩).result⟩ := by
  obtain ⟨b, hb, hform⟩ := run_sameForm reached stored later
  have hjobId : b.jobId = job.id := by
    rw [hform, enrolled]
    rfl
  have hlisted : (o.run later s).jobs.get? b.jobId = some job := by
    rw [hjobId]
    exact run_job listed later
  have hverdict : o.verdictOn job b =
      (o.screener.report ⟨job.criteria, sub.answers, sub.score⟩).result := by
    rw [verdictOn_of_sameForm hform, enrolled, verdictOn_enrol]
  refine ⟨withVerdict b (o.verdictOn job b), ?_⟩
  rw [rescreen_returns (reached.run later).consistent hb hlisted, hverdict]

theorem tryScreening_returns {job : JobPosting} (listed : s.jobs.get? job.id = some job)
    (hasCriteria : job.criteria ≠ []) (answers : Json) (score : Option Binary64) :
    ((o.tryScreening job.id ⟨some answers, score⟩).perform time s).1 =
      .ok (.evaluated job.title (some answers)
        (o.screener.report ⟨job.criteria, some answers, score⟩).processedAnswers
        (o.screener.report ⟨job.criteria, some answers, score⟩).result) := by
  rw [perform_tryScreening]
  simp only [listed, if_pos (isScreened_of_ne_nil hasCriteria)]
  rfl

/-! ## All ways together -/

/-- **One verdict at every entry.**  Let a job with criteria be opened, and take the report on its
criteria, some answers and a score, if there is one.  After any further requests a trial for the
job gives the retyped answers and the verdict of the report.  A submission for the job with the
same answers and score is taken in if it is complete and its identifier is not in use, and then it
comes back with that verdict; and whenever the application is screened again, after any requests,
that succeeds with the same verdict. -/
theorem entry_points_agree (o : Office) (s : Store) (reached : o.Reachable s) (draft : JobDraft)
    (hasCriteria : draft.criteria ≠ []) (time : Timestamp) (job : JobPosting)
    (opened : ((createJob draft).perform time s).1 = .ok job) (answers : Json)
    (score : Option Binary64) (report : ScreeningReport)
    (reported : o.screener.report ⟨draft.criteria, some answers, score⟩ = report)
    (requests : List (Timestamp × Request)) (now : Store)
    (current : o.run requests ((createJob draft).perform time s).2 = now) :
    (∀ time, ((o.tryScreening job.id ⟨some answers, score⟩).perform time now).1 =
      .ok (.evaluated job.title (some answers) report.processedAnswers report.result)) ∧
    ∀ (sub : Submission) (time : Timestamp),
      sub.jobId = job.id → sub.answers = some answers → sub.score = score →
      (sub.validate = .ok () → now.applicants.get? (Store.applicantIdOf now.nextApplicant) = none →
        ∃ receipt, ((o.apply sub).perform time now).1 = .ok receipt) ∧
      ∀ receipt, ((o.apply sub).perform time now).1 = .ok receipt →
        receipt.verdict = some report.result ∧
        ∀ (later : List (Timestamp × Request)) (time' : Timestamp),
          ∃ a, ((o.rescreen receipt.applicant.id).perform time'
            (o.run later ((o.apply sub).perform time now).2)).1 = .ok ⟨a, report.result⟩ := by
  obtain ⟨hcriteria, hjob⟩ := createJob_ok opened
  rw [← hcriteria] at hasCriteria reported
  have hreached : o.Reachable now := by
    rw [← current]
    exact (reached.handle time (.createJob draft)).run requests
  have hlisted : now.jobs.get? job.id = some job := by
    rw [← current]
    exact run_job hjob requests
  subst reported
  refine ⟨fun time => tryScreening_returns hlisted hasCriteria answers score, ?_⟩
  rintro sub time hsub hanswers rfl
  have hlisted' : now.jobs.get? sub.jobId = some job := by rw [hsub, hlisted]
  refine ⟨fun valid fresh => apply_returns valid hlisted' fresh, fun receipt applied => ?_⟩
  obtain ⟨job', hjob', hverdict, henrolled, hstore⟩ := apply_ok applied
  rw [hlisted', Option.some.injEq] at hjob'
  subst hjob'
  refine ⟨by rw [hverdict, firstVerdict_eq o hasCriteria hanswers], fun later time' => ?_⟩
  -- The record that was taken in is stored from here on, whatever comes later.
  have hreached' : o.Reachable ((o.apply sub).perform time now).2 :=
    hreached.handle time (.apply sub)
  rw [hstore] at hreached' ⊢
  rw [← hanswers]
  exact rescreen_later hreached' hlisted henrolled Store.get?_put_self later time'

/-- An applicant whose number comes as a text, who is hired by hand and then screened again. -/
theorem entry_points_agree_hired :
    ∃ (job : JobPosting) (receipt : Receipt) (a : Applicant) (report : ScreeningReport)
        (opened taken later : Store),
      (createJob ⟨"Staf", "", "", "", [⟨"ipk", .number, ">= 3.0", true⟩]⟩).perform
        ⟨2024, 5, 1, 8, 0, 0, 0⟩ (.emptyAt 1 1) = (.ok job, opened) ∧
      Screener.standard.report ⟨[⟨"ipk", .number, ">= 3.0", true⟩],
        some (.object [("ipk", .string " 3.5 ")]), none⟩ = report ∧
      (apply ⟨Screener.standard⟩ ⟨job.id, "Ani", "ani@example.id", none, none, [],
        some (.object [("ipk", .string " 3.5 ")]), none⟩).perform
          ⟨2024, 5, 2, 8, 0, 0, 0⟩ opened = (.ok receipt, taken) ∧
      run ⟨Screener.standard⟩ [(⟨2024, 5, 3, 8, 0, 0, 0⟩, .moveTo receipt.applicant.id .hired)]
        taken = later ∧
      receipt.verdict = some report.result ∧
      ((rescreen ⟨Screener.standard⟩ receipt.applicant.id).perform ⟨2024, 5, 4, 8, 0, 0, 0⟩
        later).1 = .ok ⟨a, report.result⟩ ∧
      report.result.status = .lolos := by
  obtain ⟨-, hsub⟩ := entry_points_agree ⟨Screener.standard⟩ (.emptyAt 1 1) ⟨[], 1, 1, rfl⟩
    ⟨"Staf", "", "", "", [⟨"ipk", .number, ">= 3.0", true⟩]⟩ (by decide)
    ⟨2024, 5, 1, 8, 0, 0, 0⟩ _ rfl (.object [("ipk", .string " 3.5 ")]) none _ rfl [] _ rfl
  obtain ⟨hreturns, hagrees⟩ := hsub ⟨_, "Ani", "ani@example.id", none, none, [],
    some (.object [("ipk", .string " 3.5 ")]), none⟩ ⟨2024, 5, 2, 8, 0, 0, 0⟩ rfl rfl rfl
  obtain ⟨receipt, hreceipt⟩ := hreturns rfl rfl
  obtain ⟨hverdict, hlater⟩ := hagrees receipt hreceipt
  obtain ⟨a, ha⟩ := hlater [(⟨2024, 5, 3, 8, 0, 0, 0⟩, .moveTo receipt.applicant.id .hired)]
    ⟨2024, 5, 4, 8, 0, 0, 0⟩
  exact ⟨_, receipt, a, _, _, _, _, rfl, rfl, Prod.ext hreceipt rfl, rfl, hverdict, ha,
    by decide +kernel⟩

end Office

end Hiring
