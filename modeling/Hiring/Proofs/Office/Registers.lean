import Hiring.Proofs.Office.Applications
import Hiring.Proofs.Office.Transcripts
import Hiring.Proofs.Office.Traversals

/-!
# The registers of a run

Which positions were opened and which applications came in can be told from the requests and their
answers alone, without a look into the storage.  What the storage holds after the requests is just
that, record for record: nothing is lost, nothing is there twice, and nothing is there that nobody
asked for.  The storage keeps its records in no order that matters; the registers keep the order in
which they came.

* `Office.answers` — the requests of a run with their answers, in order.
* `Office.openings`, `Office.filings`, `Office.filingsFor` — the positions that were opened, and the
  applications that came in, for all jobs or for the one that they named.
* `Office.run_perm_answers`, `Office.answers_sublist_issued` — what holds of one request, for a run.
* `Office.jobs_perm_openings`, `Office.filings_perm` — **what is stored is what is in the
  registers.**
* `Office.increasing_of_issued` — identifiers that are drawn one after the other increase, for one
  of the two counters; `Office.openings_increasing`, `Office.filings_increasing` — **as long as six
  digits are enough, the identifiers in the registers increase.**
-/

set_option autoImplicit false

namespace Hiring

namespace Office

/-! ## Requests with their answers -/

/-- The position that was opened. -/
def Answered.opening? : Answered → Option JobPosting
  | ⟨.createJob _, .ok job⟩ => some job
  | _ => none

/-- How the application was filed that came in, under the job that it named. -/
def Answered.filing? : Answered → Option Filing
  | ⟨.apply sub, .ok receipt⟩ => some ⟨receipt.applicant.id, sub.jobId, receipt.applicant.appliedAt⟩
  | _ => none

/-- Requests that are handled one after the other, with their answers. -/
def answers (o : Office) : List (Timestamp × Request) → Store → List Answered
  | [], _ => []
  | q :: rest, s => ⟨q.2, (o.handle q.1 q.2 s).1⟩ :: o.answers rest (o.handle q.1 q.2 s).2

/-- The positions that requests open, one after the other. -/
def openings (o : Office) (requests : List (Timestamp × Request)) (s : Store) : List JobPosting :=
  (o.answers requests s).filterMap Answered.opening?

/-- The applications that come in, one after the other. -/
def filings (o : Office) (requests : List (Timestamp × Request)) (s : Store) : List Filing :=
  (o.answers requests s).filterMap Answered.filing?

/-- The applications that come in for a job, one after the other. -/
def filingsFor (o : Office) (id : JobId) (requests : List (Timestamp × Request)) (s : Store) :
    List Filing :=
  (o.filings requests s).filter (·.jobId == id)

theorem filterMap_answers_cons {β : Type} (entry : Answered → Option β) (o : Office)
    (q : Timestamp × Request) (rest : List (Timestamp × Request)) (s : Store) :
    (o.answers (q :: rest) s).filterMap entry =
      (entry ⟨q.2, (o.handle q.1 q.2 s).1⟩).toList ++
        (o.answers rest (o.handle q.1 q.2 s).2).filterMap entry := by
  rw [answers, List.filterMap_eq_flatMap_toList, List.flatMap_cons,
    ← List.filterMap_eq_flatMap_toList]

variable {o : Office} {time : Timestamp} {s s' : Store} {r : Request}

/-- If each request adds to what is seen of the storage what its answer says, a run adds what its
answers say. -/
theorem run_perm_answers {β : Type} (view : Store → List β) {entry : Answered → Option β}
    (step : ∀ (time : Timestamp) (r : Request) (s : Store), s.Consistent →
      (view (o.handle time r s).2).Perm (view s ++ (entry ⟨r, (o.handle time r s).1⟩).toList))
    (requests : List (Timestamp × Request)) (consistent : s.Consistent) :
    (view (o.run requests s)).Perm (view s ++ (o.answers requests s).filterMap entry) := by
  induction requests generalizing s with
  | nil => exact .of_eq (List.append_nil _).symm
  | cons q rest ih =>
    rw [filterMap_answers_cons, ← List.append_assoc]
    exact (ih ((effect_handle q.2).consistent consistent)).trans
      ((step q.1 q.2 s consistent).append_right _)

/-- If each request draws the identifier that its answer says, a run draws those that its answers
say, in their order. -/
theorem answers_sublist_issued {k : Counter} {entry : Answered → Option String}
    (step : ∀ (time : Timestamp) (r : Request) (s : Store),
      (entry ⟨r, (o.handle time r s).1⟩).toList.Sublist
        (issued k ((o.operation r).run.transcript time s)))
    (requests : List (Timestamp × Request)) (s : Store) :
    ((o.answers requests s).filterMap entry).Sublist (issued k (o.transcript requests s)) := by
  induction requests generalizing s with
  | nil => exact .slnil
  | cons q rest ih =>
    rw [filterMap_answers_cons, transcript, issued_append]
    exact (step q.1 q.2 s).append (ih _)

/-! ## What one request adds -/

theorem Effect.jobs_kept (he : o.Effect time s r s') (h : ∀ draft, r ≠ .createJob draft) :
    s'.jobs = s.jobs := by
  cases he with
  | jobRefused => exact absurd rfl (h _)
  | posted _ _ => exact absurd rfl (h _)
  | kept => rfl
  | applicantRefused => rfl
  | enrolled _ _ _ => rfl
  | rescreened _ _ => rfl
  | moved _ => rfl

theorem Effect.filings_kept (he : o.Effect time s r s') (consistent : s.Consistent)
    (h : ∀ sub, r ≠ .apply sub) :
    s'.applicants.values.map Applicant.filing = s.applicants.values.map Applicant.filing := by
  cases he with
  | applicantRefused => exact absurd rfl (h _)
  | enrolled _ _ _ => exact absurd rfl (h _)
  | rescreened stored _ =>
    rw [← consistent.applicant_id stored] at stored
    exact Keyed.map_values_insert stored rfl
  | moved stored =>
    rw [← consistent.applicant_id stored] at stored
    exact Keyed.map_values_insert stored rfl
  | kept => rfl
  | jobRefused => rfl
  | posted _ _ => rfl

theorem handle_jobs_perm (time : Timestamp) (r : Request) (s : Store) :
    (o.handle time r s).2.jobs.values.Perm
      (s.jobs.values ++ (Answered.opening? ⟨r, (o.handle time r s).1⟩).toList) := by
  cases r with
  | createJob draft =>
    show ((createJob draft).perform time s).2.jobs.values.Perm (s.jobs.values ++
      (Answered.opening? ⟨.createJob draft, ((createJob draft).perform time s).1⟩).toList)
    obtain ⟨e, hfails, hjobs, -⟩ | ⟨valid, fresh⟩ := createJob_cases time draft s
    · rw [hfails, hjobs]
      exact .of_eq (List.append_nil _).symm
    · rw [createJob_returns valid fresh]
      exact (Keyed.values_insert_perm_cons fresh _).trans (List.perm_append_singleton _ _).symm
  | _ =>
    rw [(effect_handle _).jobs_kept (by simp)]
    exact .of_eq (List.append_nil _).symm

theorem handle_filings_perm (time : Timestamp) (r : Request) (s : Store)
    (consistent : s.Consistent) :
    ((o.handle time r s).2.applicants.values.map Applicant.filing).Perm
      (s.applicants.values.map Applicant.filing ++
        (Answered.filing? ⟨r, (o.handle time r s).1⟩).toList) := by
  cases r with
  | apply sub =>
    show (((o.apply sub).perform time s).2.applicants.values.map Applicant.filing).Perm
      (s.applicants.values.map Applicant.filing ++
        (Answered.filing? ⟨.apply sub, ((o.apply sub).perform time s).1⟩).toList)
    obtain ⟨e, hfails, -, happlicants⟩ | ⟨job, valid, listed, fresh⟩ := apply_cases o time sub s
    · rw [hfails, happlicants]
      exact .of_eq (List.append_nil _).symm
    · have hfiling : (enrol sub job (o.firstVerdict job sub) (Store.applicantIdOf s.nextApplicant)
          time).filing = ⟨Store.applicantIdOf s.nextApplicant, sub.jobId, time⟩ :=
        congrArg (Filing.mk _ · time) (consistent.job_id listed)
      rw [apply_stores valid listed fresh]
      refine ((Keyed.values_insert_perm_cons fresh _).map Applicant.filing).trans ?_
      rw [List.map_cons, hfiling]
      exact (List.perm_append_singleton _ _).symm
  | _ =>
    rw [(effect_handle _).filings_kept consistent (by simp)]
    exact .of_eq (List.append_nil _).symm

/-- What is drawn after an operation that succeeded is drawn. -/
theorem sublist_issued_bind {α β : Type} {k : Counter} {ids : List String} {op : Operation α}
    {a : α} (h : op.perform time s = (.ok a, s')) {f : α → Operation β}
    (hids : ids.Sublist (issued k ((f a).run.transcript time s'))) :
    ids.Sublist (issued k ((op >>= f).run.transcript time s)) := by
  rw [Operation.transcript_bind h, issued_append]
  exact List.sublist_append_of_sublist_right hids

theorem sublist_issued_createJob {draft : JobDraft} (valid : draft.validate = .ok ()) :
    [Store.jobIdOf s.nextJob].Sublist (issued .jobs ((createJob draft).run.transcript time s)) := by
  refine sublist_issued_bind (Operation.perform_require_of_ok _ _ valid) ?_
  rw [Operation.transcript_bind (Operation.perform_drawJobId time s), issued_append]
  exact List.sublist_append_left [Store.jobIdOf s.nextJob] _

theorem sublist_issued_apply {sub : Submission} {posting : JobPosting}
    (valid : sub.validate = .ok ()) (listed : s.jobs.get? sub.jobId = some posting) :
    [Store.applicantIdOf s.nextApplicant].Sublist
      (issued .applicants ((o.apply sub).run.transcript time s)) := by
  have hjob : (job sub.jobId).perform time s = (.ok posting, s) := by
    rw [perform_job, listed]
  refine sublist_issued_bind (Operation.perform_require_of_ok _ _ valid)
    (sublist_issued_bind hjob ?_)
  rw [Operation.transcript_bind (Operation.perform_drawApplicantId time s), issued_append]
  exact List.sublist_append_left [Store.applicantIdOf s.nextApplicant] _

theorem opening_sublist_issued (time : Timestamp) (r : Request) (s : Store) :
    ((Answered.opening? ⟨r, (o.handle time r s).1⟩).map (·.id)).toList.Sublist
      (issued .jobs ((o.operation r).run.transcript time s)) := by
  cases r with
  | createJob draft =>
    show ((Answered.opening? ⟨.createJob draft,
      ((createJob draft).perform time s).1⟩).map (·.id)).toList.Sublist
        (issued .jobs ((createJob draft).run.transcript time s))
    obtain ⟨e, hfails, -, -⟩ | ⟨valid, fresh⟩ := createJob_cases time draft s
    · rw [hfails]
      exact List.nil_sublist _
    · rw [createJob_returns valid fresh]
      exact sublist_issued_createJob valid
  | _ => exact List.nil_sublist _

theorem filing_sublist_issued (time : Timestamp) (r : Request) (s : Store) :
    ((Answered.filing? ⟨r, (o.handle time r s).1⟩).map (·.id)).toList.Sublist
      (issued .applicants ((o.operation r).run.transcript time s)) := by
  cases r with
  | apply sub =>
    show ((Answered.filing? ⟨.apply sub,
      ((o.apply sub).perform time s).1⟩).map (·.id)).toList.Sublist
        (issued .applicants ((o.apply sub).run.transcript time s))
    obtain ⟨e, hfails, -, -⟩ | ⟨posting, valid, listed, fresh⟩ := apply_cases o time sub s
    · rw [hfails]
      exact List.nil_sublist _
    · rw [apply_stores valid listed fresh]
      exact sublist_issued_apply valid listed
  | _ => exact List.nil_sublist _

/-! ## What a run adds -/

variable {requests : List (Timestamp × Request)}

section Start

variable {nextJob nextApplicant : UInt64} {start : Store}

/-- **The positions that are stored are those that were opened.** -/
theorem jobs_perm_openings (empty : start = .emptyAt nextJob nextApplicant)
    (reached : s = o.run requests start) : s.jobs.values.Perm (o.openings requests start) := by
  subst empty reached
  exact run_perm_answers (fun s => s.jobs.values) (fun time r s _ => handle_jobs_perm time r s)
    requests (Store.consistent_emptyAt _ _)

/-- **The applications that are stored are those that came in.** -/
theorem filings_perm (empty : start = .emptyAt nextJob nextApplicant)
    (reached : s = o.run requests start) :
    (s.applicants.values.map Applicant.filing).Perm (o.filings requests start) := by
  subst empty reached
  exact run_perm_answers (fun s => s.applicants.values.map Applicant.filing) handle_filings_perm
    requests (Store.consistent_emptyAt _ _)

end Start

theorem pairwise_lt_issued (k : Counter)
    (inRange : (s.next k).toNat + (issued k (o.transcript requests s)).length ≤ 1000000) :
    (issued k (o.transcript requests s)).Pairwise (· < ·) := by
  have hcounted : Counted k (s.next k) (issued k ([] ++ o.transcript requests s)) _ :=
    (Counted.start k (s.next k)).run o requests
  rw [List.nil_append] at hcounted
  rw [hcounted.issued_eq]
  exact Counter.pairwise_lt_numbered inRange

/-- If each request draws the identifier of what its answer says, what is said later has greater
identifiers, as long as six digits are enough. -/
theorem increasing_of_issued {β : Type} {k : Counter} {entry : Answered → Option β} {id : β → String}
    (step : ∀ (time : Timestamp) (r : Request) (s : Store),
      ((entry ⟨r, (o.handle time r s).1⟩).map id).toList.Sublist
        (issued k ((o.operation r).run.transcript time s)))
    (inRange : (s.next k).toNat + (issued k (o.transcript requests s)).length ≤ 1000000) :
    ((o.answers requests s).filterMap entry).Pairwise fun a b => id a < id b := by
  have hids : (((o.answers requests s).filterMap entry).map id).Sublist
      (issued k (o.transcript requests s)) := by
    rw [List.map_filterMap]
    exact answers_sublist_issued step requests s
  exact List.pairwise_map.1 ((pairwise_lt_issued k inRange).sublist hids)

/-- **Positions that are opened later have greater identifiers**, as long as six digits are
enough. -/
theorem openings_increasing
    (inRange : s.nextJob.toNat + (issued .jobs (o.transcript requests s)).length ≤ 1000000) :
    (o.openings requests s).Pairwise fun a b => a.id < b.id :=
  increasing_of_issued opening_sublist_issued inRange

/-- **Applications that come in later have greater identifiers**, as long as six digits are
enough. -/
theorem filings_increasing
    (inRange : s.nextApplicant.toNat + (issued .applicants (o.transcript requests s)).length ≤
      1000000) :
    (o.filings requests s).Pairwise fun a b => a.id < b.id :=
  increasing_of_issued filing_sublist_issued inRange

end Office

end Hiring
