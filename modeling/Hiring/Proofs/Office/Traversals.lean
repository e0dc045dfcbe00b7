import Hiring.Proofs.Office.Requests
import Hiring.Proofs.Timestamp.Order
import Mathlib.Data.List.Nodup
import Mathlib.Data.Prod.Lex
import Mathlib.Data.String.Basic

/-!
# The order in which a storage goes through its records

A storage that is asked for all its records may give them in any order, and in another one the next
time.  Two operations ask, and both sort what they get, by something that no two records share; so
the order in which the records came never shows.  Of the other operations there is only to say that
they do not ask.

* `Traversal`, `Store.answerIn`, `Office.handleIn`, `Office.runIn` — an order of the records, and
  calls, requests and runs with a storage that goes through its records in this order.
* `eq_of_perm_of_pairwise_lt`, `mergeSort_eq_of_perm` — a list sorted by something that no two of
  its members share is the only one.
* `Filing.place`, `Office.comesBefore_iff` — what applications are sorted by.
* `Script.Unlisted` — the script does not ask for all records.
* `Office.handleIn_eq_handle`, `Office.runIn_eq_run` — **whatever the order, each request is
  answered alike**, and a run leads to the same storage.
-/

set_option autoImplicit false

namespace Hiring

/-! ## Storages that go through their records in some order -/

/-- An order in which the records of a storage are gone through. -/
structure Traversal where
  jobs : Store → List JobPosting
  applicants : Store → List Applicant
  /-- Each job is met once. -/
  jobs_perm : ∀ s, (jobs s).Perm s.jobs.values
  /-- Each application is met once. -/
  applicants_perm : ∀ s, (applicants s).Perm s.applicants.values

/-- The call asks for all records of a sort. -/
def Call.isListing : Call → Bool
  | .listJobs => true
  | .listApplicants _ => true
  | _ => false

/-- The answer to a call if the records are gone through in an order, and the storage after it. -/
def Store.answerIn (t : Traversal) (time : Timestamp) (c : Call) (s : Store) : c.Reply × Store :=
  match c with
  | .listJobs => (.ok (t.jobs s), s)
  | .listApplicants jobId => (.ok ((t.applicants s).filter (·.jobId == jobId)), s)
  | c => s.answer time c

/-- A request handled at a time by a storage that goes through its records in an order. -/
def Office.handleIn (o : Office) (t : Traversal) (time : Timestamp) (r : Request) (s : Store) :
    Except OfficeError r.Result × Store :=
  (o.operation r).run.runWith (Store.answerIn t time) s

/-- The storage after requests that were handled one after the other, each at its time, by a storage
that went through its records in an order of its own each time. -/
def Office.runIn (o : Office) (requests : List (Traversal × Timestamp × Request)) (s : Store) :
    Store :=
  requests.foldl (fun s q => (o.handleIn q.1 q.2.1 q.2.2 s).2) s

theorem Store.answerIn_of_not_isListing {c : Call} (hc : c.isListing = false) (t : Traversal)
    (time : Timestamp) (s : Store) : s.answerIn t time c = s.answer time c := by
  cases c with
  | listJobs => cases hc
  | listApplicants _ => cases hc
  | _ => rfl

/-! ## Sorting by what no two members share -/

section Sorting

variable {α κ : Type} [LinearOrder κ] {key : α → κ} {before : α → α → Bool}

theorem pairwise_lt_mergeSort (hbefore : ∀ a b, before a b = true ↔ key a ≤ key b) {l : List α}
    (hnodup : (l.map key).Nodup) : (l.mergeSort before).Pairwise fun a b => key a < key b := by
  have hsorted : (l.mergeSort before).Pairwise fun a b => before a b = true := by
    refine List.pairwise_mergeSort (fun a b c hab hbc => ?_) (fun a b => ?_) l
    · rw [hbefore] at hab hbc ⊢
      exact hab.trans hbc
    · rw [Bool.or_eq_true, hbefore, hbefore]
      exact le_total _ _
  have hdistinct : (l.mergeSort before).Pairwise fun a b => key a ≠ key b :=
    List.pairwise_map.1 (((List.mergeSort_perm l before).map key).nodup_iff.2 hnodup)
  refine (hsorted.and hdistinct).imp ?_
  rintro a b ⟨hle, hne⟩
  exact lt_of_le_of_ne ((hbefore a b).1 hle) hne

/-- **Of lists with the same members only one is sorted.** -/
theorem eq_of_perm_of_pairwise_lt {l l' : List α} (hperm : l.Perm l')
    (hl : l.Pairwise fun a b => key a < key b) (hl' : l'.Pairwise fun a b => key a < key b) :
    l = l' :=
  List.Perm.eq_of_pairwise (fun _ _ _ _ hab hba => absurd hab (lt_asymm hba)) hl hl' hperm

theorem mergeSort_eq_of_perm (hbefore : ∀ a b, before a b = true ↔ key a ≤ key b)
    {l sorted : List α} (hperm : sorted.Perm l)
    (hsorted : sorted.Pairwise fun a b => key a < key b) : l.mergeSort before = sorted := by
  have hnodup : (l.map key).Nodup :=
    (hperm.map key).nodup_iff.1 (List.pairwise_map.2 (hsorted.imp ne_of_lt))
  exact eq_of_perm_of_pairwise_lt ((List.mergeSort_perm l before).trans hperm.symm)
    (pairwise_lt_mergeSort hbefore hnodup) hsorted

end Sorting

/-- What an application is filed by, and filed under. -/
structure Filing where
  id : ApplicantId
  jobId : JobId
  appliedAt : Timestamp
deriving Repr, DecidableEq

/-- Applications are sorted by the time at which they came in, and then by their identifiers. -/
def Filing.place (f : Filing) : Timestamp ×ₗ ApplicantId := toLex (f.appliedAt, f.id)

/-- How an application is filed. -/
def Applicant.filing (a : Applicant) : Filing := ⟨a.id, a.jobId, a.appliedAt⟩

namespace Office

theorem comesBefore_iff (a b : Applicant) :
    comesBefore a b = true ↔ a.filing.place ≤ b.filing.place := by
  rw [Prod.Lex.le_iff]
  show comesBefore a b = true ↔
    a.appliedAt < b.appliedAt ∨ a.appliedAt = b.appliedAt ∧ a.id ≤ b.id
  rw [comesBefore]
  split
  · next heq => simp [heq]
  · next hne => rw [Timestamp.le_iff_le, le_iff_lt_or_eq]; simp [hne]

/-! ## Records that are sorted -/

theorem pairwise_sortJobs {jobs : List JobPosting} (hnodup : (jobs.map (·.id)).Nodup) :
    (sortJobs jobs).Pairwise fun a b => a.id < b.id :=
  pairwise_lt_mergeSort (fun _ _ => decide_eq_true_iff) hnodup

theorem sortJobs_eq_of_perm {jobs sorted : List JobPosting} (hperm : sorted.Perm jobs)
    (hsorted : sorted.Pairwise fun a b => a.id < b.id) : sortJobs jobs = sorted :=
  mergeSort_eq_of_perm (fun _ _ => decide_eq_true_iff) hperm hsorted

theorem pairwise_sortApplicants {as : List Applicant} (hnodup : (as.map (·.id)).Nodup) :
    (sortApplicants as).Pairwise fun a b => a.filing.place < b.filing.place := by
  refine pairwise_lt_mergeSort comesBefore_iff ?_
  -- Places differ where identifiers do.
  have hplaces : (as.map (·.filing.place)).map (fun p => (ofLex p).2) = as.map (·.id) := by
    rw [List.map_map]
    rfl
  rw [← hplaces] at hnodup
  exact hnodup.of_map

theorem sortApplicants_eq_of_perm {as sorted : List Applicant} (hperm : sorted.Perm as)
    (hsorted : sorted.Pairwise fun a b => a.filing.place < b.filing.place) :
    sortApplicants as = sorted :=
  mergeSort_eq_of_perm comesBefore_iff hperm hsorted

end Office

namespace Store.Consistent

variable {s : Store}

theorem nodup_jobs (h : s.Consistent) : (s.jobs.values.map (·.id)).Nodup := by
  rw [Keyed.map_values_eq_keys h.job_id]
  exact Keyed.nodup_keys _

theorem nodup_applicants (h : s.Consistent) : (s.applicants.values.map (·.id)).Nodup := by
  rw [Keyed.map_values_eq_keys h.applicant_id]
  exact Keyed.nodup_keys _

end Store.Consistent

/-! ## Operations that do not ask for all records -/

/-- The script does not ask for all records of a sort. -/
inductive Script.Unlisted {α : Type} : Script α → Prop
  | done (a : α) : Unlisted (.done a)
  | call {c : Call} {next : c.Reply → Script α} (hc : c.isListing = false)
      (h : ∀ reply, Unlisted (next reply)) : Unlisted (.call c next)

section Unlisted

variable {α β : Type}

theorem Script.Unlisted.bind {script : Script α} {f : α → Script β} (h : script.Unlisted)
    (hf : ∀ a, (f a).Unlisted) : (script >>= f).Unlisted := by
  induction h with
  | done a => exact hf a
  | call hc _ ih => exact .call hc ih

theorem Script.Unlisted.ask {c : Call} (hc : c.isListing = false) : (Script.ask c).Unlisted :=
  .call hc .done

/-- **Without asking for all records, their order does not show.** -/
theorem Script.Unlisted.runWith_eq {script : Script α} (h : script.Unlisted) (t : Traversal)
    (time : Timestamp) (s : Store) :
    script.runWith (Store.answerIn t time) s = script.runWith (Store.answer time) s := by
  induction h generalizing s with
  | done a => rfl
  | call hc _ ih =>
    rw [runWith, runWith, Store.answerIn_of_not_isListing hc]
    exact ih _ _

namespace Operation

/-- The operation does not ask for all records of a sort. -/
def Unlisted (op : Operation α) : Prop := op.run.Unlisted

theorem Unlisted.bind {op : Operation α} {f : α → Operation β} (h : op.Unlisted)
    (hf : ∀ a, (f a).Unlisted) : (op >>= f).Unlisted := by
  refine Script.Unlisted.bind (f := ExceptT.bindCont f) h fun result => ?_
  cases result with
  | ok a => exact hf a
  | error e => exact .done _

theorem unlisted_pure (a : α) : (pure a : Operation α).Unlisted := .done _

theorem unlisted_throw (e : OfficeError) : (throw e : Operation α).Unlisted := .done _

theorem unlisted_require (e : Except InvalidInput α) : (require e).Unlisted := .done _

theorem unlisted_ofScript {script : Script α} (h : script.Unlisted) :
    (ofScript script).Unlisted := Script.Unlisted.bind h fun _ => .done _

theorem unlisted_ofStorage {script : Script (Except StorageError α)} (h : script.Unlisted) :
    (ofStorage script).Unlisted := Script.Unlisted.bind h fun _ => .done _

end Operation

end Unlisted

/-! ## Requests -/

/-- The request is for all records of a sort. -/
def Request.isListing : Request → Bool
  | .jobs => true
  | .applicantsFor _ => true
  | _ => false

namespace Office

open Operation

variable {o : Office} {s : Store}

theorem unlisted_job (id : JobId) : (job id).Unlisted := by
  refine .bind (unlisted_ofStorage (.ask rfl)) fun found => ?_
  cases found with
  | some posting => exact unlisted_pure posting
  | none => exact unlisted_throw _

theorem unlisted_applicant (id : ApplicantId) : (applicant id).Unlisted := by
  refine .bind (unlisted_ofStorage (.ask rfl)) fun found => ?_
  cases found with
  | some a => exact unlisted_pure a
  | none => exact unlisted_throw _

theorem unlisted_createJob (draft : JobDraft) : (createJob draft).Unlisted :=
  .bind (unlisted_require _) fun _ =>
    .bind (unlisted_ofScript (.ask rfl)) fun _ => unlisted_ofStorage (.ask rfl)

theorem unlisted_apply (sub : Submission) : (o.apply sub).Unlisted :=
  .bind (unlisted_require _) fun _ =>
    .bind (unlisted_job _) fun _ =>
      .bind (unlisted_ofScript (.ask rfl)) fun _ =>
        .bind (unlisted_ofScript (.ask rfl)) fun _ =>
          .bind (unlisted_ofStorage (.ask rfl)) fun _ => unlisted_pure _

theorem unlisted_rescreen (id : ApplicantId) : (o.rescreen id).Unlisted :=
  .bind (unlisted_applicant id) fun _ =>
    .bind (unlisted_job _) fun _ =>
      .bind (unlisted_ofStorage (.ask rfl)) fun _ => unlisted_pure _

theorem unlisted_moveTo (id : ApplicantId) (stage : Stage) : (moveTo id stage).Unlisted :=
  .bind (unlisted_applicant id) fun _ =>
    .bind (unlisted_ofStorage (.ask rfl)) fun _ => unlisted_pure _

theorem unlisted_tryScreening (id : JobId) (trial : TrialRequest) :
    (o.tryScreening id trial).Unlisted := by
  refine .bind (unlisted_job id) fun posting => ?_
  split
  · exact unlisted_pure _
  · exact unlisted_pure _

/-- **Only two sorts of requests ask for all records.** -/
theorem unlisted_operation (o : Office) {r : Request} (h : r.isListing = false) :
    (o.operation r).Unlisted := by
  cases r with
  | jobs => cases h
  | applicantsFor _ => cases h
  | createJob draft => exact unlisted_createJob draft
  | job id => exact unlisted_job id
  | apply sub => exact unlisted_apply sub
  | applicant id => exact unlisted_applicant id
  | rescreen id => exact unlisted_rescreen id
  | tryScreening id trial => exact unlisted_tryScreening id trial
  | moveTo id stage => exact unlisted_moveTo id stage

theorem handleIn_jobs (t : Traversal) (time : Timestamp) (consistent : s.Consistent) :
    o.handleIn t time .jobs s = o.handle time .jobs s := by
  have hsorted : sortJobs (t.jobs s) = sortJobs s.jobs.values :=
    sortJobs_eq_of_perm ((List.mergeSort_perm _ _).trans (t.jobs_perm s).symm)
      (pairwise_sortJobs consistent.nodup_jobs)
  show (.ok (sortJobs (t.jobs s)), s) = jobs.perform time s
  rw [perform_jobs, hsorted]

theorem handleIn_applicantsFor (t : Traversal) (time : Timestamp) (consistent : s.Consistent)
    (id : JobId) :
    o.handleIn t time (.applicantsFor id) s = o.handle time (.applicantsFor id) s := by
  have hnodup : ((s.applicants.values.filter (·.jobId == id)).map (·.id)).Nodup :=
    consistent.nodup_applicants.sublist (List.filter_sublist.map _)
  have hsorted : sortApplicants ((t.applicants s).filter (·.jobId == id)) =
      sortApplicants (s.applicants.values.filter (·.jobId == id)) :=
    sortApplicants_eq_of_perm
      ((List.mergeSort_perm _ _).trans ((t.applicants_perm s).symm.filter _))
      (pairwise_sortApplicants hnodup)
  have hrun : o.handleIn t time (.applicantsFor id) s =
      Script.runWith (Store.answerIn t time)
        (ExceptT.bindCont (fun _ => return sortApplicants (← listApplicants id))
          ((job id).run.runWith (Store.answerIn t time) s).1)
        ((job id).run.runWith (Store.answerIn t time) s).2 :=
    Script.runWith_bind (Store.answerIn t time) (job id).run _ s
  have hjob : (job id).run.runWith (Store.answerIn t time) s = (job id).perform time s :=
    (unlisted_job id).runWith_eq t time s
  show _ = (applicantsFor id).perform time s
  rw [hrun, hjob, perform_applicantsFor, perform_job]
  cases s.jobs.get? id with
  | none => rfl
  | some posting =>
    rw [← hsorted]
    rfl

/-- **Whatever the order in which a storage goes through its records, each request is answered
alike**, and leaves the same storage. -/
theorem handleIn_eq_handle (t : Traversal) (time : Timestamp) (consistent : s.Consistent)
    (r : Request) : o.handleIn t time r s = o.handle time r s := by
  cases h : r.isListing with
  | false => exact (unlisted_operation o h).runWith_eq t time s
  | true =>
    cases r with
    | jobs => exact handleIn_jobs t time consistent
    | applicantsFor id => exact handleIn_applicantsFor t time consistent id
    | _ => cases h

/-- **Whatever the orders, a run leads to the same storage.** -/
theorem runIn_eq_run (consistent : s.Consistent)
    (requests : List (Traversal × Timestamp × Request)) :
    o.runIn requests s = o.run (requests.map Prod.snd) s := by
  induction requests generalizing s with
  | nil => rfl
  | cons q rest ih =>
    show o.runIn rest (o.handleIn q.1 q.2.1 q.2.2 s).2 =
      o.run (rest.map Prod.snd) (o.handle q.2.1 q.2.2 s).2
    rw [handleIn_eq_handle q.1 q.2.1 consistent]
    exact ih ((effect_handle q.2.2).consistent consistent)

end Office

end Hiring
