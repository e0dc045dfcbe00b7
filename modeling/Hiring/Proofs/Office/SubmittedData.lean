import Hiring.Proofs.Office.Failures

/-!
# What has been sent in stays

A posting is never changed, and of an application only the stage and the screening are.  Requests
that change an application fetch the whole record and store the whole record again, and screening
works on answers that were retyped, so this is not for want of opportunity: what is stored again is
the record that was fetched, with other fields in the place of those.

* `Keyed.Added` — one record is new and the others are as they were.
* `Office.createJob_adds`, `Office.apply_adds` — opening a position and taking in an application add
  one record, if they succeed, and none otherwise.
* `Office.Effect.elsewhere` — a request for one application leaves the postings and the other
  applications alone.
* `Office.submitted_data_kept` — **what has been sent in stays as it came in, in any run.**
-/

set_option autoImplicit false

namespace Hiring

/-! ## One record more -/

/-- One record is new, under a key that was not in use, and the others are as they were. -/
structure Keyed.Added {α : Type} (before after : Keyed α) (key : String) (a : α) : Prop where
  new : before.get? key = none
  there : after.get? key = some a
  others : ∀ other, other ≠ key → after.get? other = before.get? other

theorem Keyed.added_insert {α : Type} {m : Keyed α} {key : String} (new : m.get? key = none)
    (a : α) : m.Added (m.insert key a) key a where
  new := new
  there := get?_insert_self m key a
  others := by
    intro other hne
    rw [get?_insert, if_neg hne]

namespace Office

variable {o : Office} {s : Store}

/-- **Opening a position adds one posting or none**, and leaves the applications alone. -/
theorem createJob_adds (time : Timestamp) (draft : JobDraft) (s : Store) :
    ((createJob draft).perform time s).2.applicants = s.applicants ∧
    ((∃ e, ((createJob draft).perform time s).1 = .error e ∧
        ((createJob draft).perform time s).2.jobs = s.jobs) ∨
      ∃ id, ((createJob draft).perform time s).1 = .ok (.ofDraft id draft) ∧
        s.jobs.Added ((createJob draft).perform time s).2.jobs id (.ofDraft id draft)) := by
  obtain ⟨e, hfails, hjobs, happlicants⟩ | ⟨valid, fresh⟩ := createJob_cases time draft s
  · exact ⟨happlicants, .inl ⟨e, hfails, hjobs⟩⟩
  · rw [createJob_returns valid fresh]
    exact ⟨rfl, .inr ⟨_, rfl, Keyed.added_insert fresh _⟩⟩

/-- **Taking in an application adds one record or none**, and leaves the postings alone.  The record
is made of what was sent in; the answers are not retyped. -/
theorem apply_adds (o : Office) (time : Timestamp) (sub : Submission) (s : Store) :
    ((o.apply sub).perform time s).2.jobs = s.jobs ∧
    ((∃ e, ((o.apply sub).perform time s).1 = .error e ∧
        ((o.apply sub).perform time s).2.applicants = s.applicants) ∨
      ∃ job receipt, s.jobs.get? sub.jobId = some job ∧
        ((o.apply sub).perform time s).1 = .ok receipt ∧
        receipt.applicant = enrol sub job receipt.verdict receipt.applicant.id time ∧
        s.applicants.Added ((o.apply sub).perform time s).2.applicants receipt.applicant.id
          receipt.applicant) := by
  obtain ⟨e, hfails, hjobs, happlicants⟩ | ⟨job, valid, listed, fresh⟩ := apply_cases o time sub s
  · exact ⟨hjobs, .inl ⟨e, hfails, happlicants⟩⟩
  · rw [apply_stores valid listed fresh]
    exact ⟨rfl, .inr ⟨job, _, listed, rfl, rfl, Keyed.added_insert fresh _⟩⟩

/-- **A request for one application leaves the postings and the other applications alone.** -/
theorem Effect.elsewhere {time : Timestamp} {s' : Store} {r : Request} {id : ApplicantId}
    (he : o.Effect time s r s') (consistent : s.Consistent) (asked : r.applicant? = some id) :
    s'.jobs = s.jobs ∧
      ∀ other, other ≠ id → s'.applicants.get? other = s.applicants.get? other := by
  have hput : ∀ a : Applicant, a.id = id → ∀ other, other ≠ id →
      (s.put a).applicants.get? other = s.applicants.get? other := by
    intro a hid other hne
    rw [Store.put_applicants, Keyed.get?_insert, hid, if_neg hne]
  cases he with
  | kept => exact ⟨rfl, fun _ _ => rfl⟩
  | jobRefused => cases asked
  | applicantRefused => cases asked
  | posted _ _ => cases asked
  | enrolled _ _ _ => cases asked
  | rescreened stored _ =>
    cases asked
    have hid := consistent.applicant_id stored
    exact ⟨rfl, hput _ hid⟩
  | moved stored =>
    cases asked
    have hid := consistent.applicant_id stored
    exact ⟨rfl, hput _ hid⟩

/-- **What has been sent in stays as it came in.**  Take any storage that requests lead to.  Its
records are stored under their own identifiers, and the job of each application is stored.  Whatever
requests come next, no record goes away, postings are not changed, and of an application only the
stage and the screening are.  A request for one application changes neither a posting nor another
application.  Opening a position or taking in an application adds one record, made of what was sent
in, or fails and adds none, and nothing else changes. -/
theorem submitted_data_kept (o : Office) (s : Store) (reached : o.Reachable s) :
    s.Consistent ∧
    (∀ requests id job, s.jobs.get? id = some job → (o.run requests s).jobs.get? id = some job) ∧
    (∀ requests id a, s.applicants.get? id = some a →
      ∃ b, (o.run requests s).applicants.get? id = some b ∧ a.SameForm b) ∧
    (∀ time r id, r.applicant? = some id →
      (o.handle time r s).2.jobs = s.jobs ∧
      ∀ other, other ≠ id →
        (o.handle time r s).2.applicants.get? other = s.applicants.get? other) ∧
    (∀ time draft,
      (o.handle time (.createJob draft) s).2.applicants = s.applicants ∧
      ((∃ e, (o.handle time (.createJob draft) s).1 = .error e ∧
          (o.handle time (.createJob draft) s).2.jobs = s.jobs) ∨
        ∃ id, (o.handle time (.createJob draft) s).1 = .ok (.ofDraft id draft) ∧
          s.jobs.Added (o.handle time (.createJob draft) s).2.jobs id (.ofDraft id draft))) ∧
    ∀ time sub,
      (o.handle time (.apply sub) s).2.jobs = s.jobs ∧
      ((∃ e, (o.handle time (.apply sub) s).1 = .error e ∧
          (o.handle time (.apply sub) s).2.applicants = s.applicants) ∨
        ∃ job receipt, s.jobs.get? sub.jobId = some job ∧
          (o.handle time (.apply sub) s).1 = .ok receipt ∧
          receipt.applicant = enrol sub job receipt.verdict receipt.applicant.id time ∧
          s.applicants.Added (o.handle time (.apply sub) s).2.applicants receipt.applicant.id
            receipt.applicant ∧
          ∀ requests, ∃ b,
            (o.run requests (o.handle time (.apply sub) s).2).applicants.get?
              receipt.applicant.id = some b ∧
            receipt.applicant.SameForm b) := by
  refine ⟨reached.consistent, fun requests id job listed => run_job listed requests,
    fun requests id a stored => run_sameForm reached stored requests,
    fun time r id asked => (effect_handle r).elsewhere reached.consistent asked,
    fun time draft => createJob_adds time draft s, fun time sub => ?_⟩
  obtain ⟨hjobs, hfails | ⟨job, receipt, listed, hreturns, hmade, hadded⟩⟩ :=
    apply_adds o time sub s
  · exact ⟨hjobs, .inl hfails⟩
  · refine ⟨hjobs, .inr ⟨job, receipt, listed, hreturns, hmade, hadded, fun requests => ?_⟩⟩
    exact run_sameForm (reached.handle time (.apply sub)) hadded.there requests

/-- A number comes in as a text with blanks around it.  The applicant is hired by hand and screened
again; the answer is still that text. -/
theorem submitted_data_kept_text :
    ∃ s receipt b, s = run ⟨Screener.standard⟩ [(⟨2024, 5, 1, 8, 0, 0, 0⟩,
        .createJob ⟨"Staf", "", "", "", [⟨"gaji", .number, ">=3", true⟩]⟩)] (.emptyAt 1 1) ∧
      (handle ⟨Screener.standard⟩ ⟨2024, 5, 2, 8, 0, 0, 0⟩
        (.apply ⟨"job-000001", "Ani", "ani@example.id", none, none, [],
          some (.object [("gaji", .string " 5 ")]), none⟩) s).1 = .ok receipt ∧
      (run ⟨Screener.standard⟩
        [(⟨2024, 5, 3, 8, 0, 0, 0⟩, .moveTo "applicant-000001" .hired),
          (⟨2024, 5, 4, 8, 0, 0, 0⟩, .rescreen "applicant-000001")]
        (handle ⟨Screener.standard⟩ ⟨2024, 5, 2, 8, 0, 0, 0⟩
          (.apply ⟨"job-000001", "Ani", "ani@example.id", none, none, [],
            some (.object [("gaji", .string " 5 ")]), none⟩) s).2).applicants.get?
        receipt.applicant.id = some b ∧
      b.answers = some (.object [("gaji", .string " 5 ")]) := by
  obtain ⟨-, -, -, -, -, happly⟩ := submitted_data_kept ⟨Screener.standard⟩ _
    ⟨[(⟨2024, 5, 1, 8, 0, 0, 0⟩,
        .createJob ⟨"Staf", "", "", "", [⟨"gaji", .number, ">=3", true⟩]⟩)], 1, 1, rfl⟩
  obtain ⟨-, ⟨e, hfails, -⟩ | ⟨job, receipt, -, hreturns, hmade, -, hlater⟩⟩ :=
    happly ⟨2024, 5, 2, 8, 0, 0, 0⟩ ⟨"job-000001", "Ani", "ani@example.id", none, none, [],
      some (.object [("gaji", .string " 5 ")]), none⟩
  · have hok := congrArg Except.isOk hfails
    exact absurd (hok.trans (rfl : _ = false)) (by decide +kernel)
  · obtain ⟨b, hb, hsame⟩ := hlater
      [(⟨2024, 5, 3, 8, 0, 0, 0⟩, .moveTo "applicant-000001" .hired),
        (⟨2024, 5, 4, 8, 0, 0, 0⟩, .rescreen "applicant-000001")]
    have hanswers : b.answers = receipt.applicant.answers := by
      rw [Applicant.SameForm] at hsame
      rw [hsame]
    refine ⟨_, receipt, b, rfl, hreturns, hb, ?_⟩
    rw [hanswers, hmade]
    rfl

end Office

end Hiring
