import Hiring.Proofs.Office.Interleaving
import Hiring.Proofs.Office.Numbering

/-!
# Identifiers in hand

A request that stores a new record draws an identifier first and uses it for one insertion.  Other
requests may make calls between the two, so what counts is not what the storage looks like but
which identifiers each request has in hand.

`Script.Owns` is a logic of scripts for this: drawing puts an identifier in hand, an insertion
needs one in hand and takes it away, and all other calls leave the hand as it is.  It does not ask
what is stored, and so it holds of each request by itself, whatever other requests do.

* `Hand`, `Script.Owns` — the identifiers that a script has drawn and not used; a script that
  inserts under identifiers in hand only, and ends as it should if its insertions are accepted.
* `Script.Owns.bind`, `Operation.Owns.bind` — one script or operation after the other.
* `Operation.owns_drawJobId` … `Operation.owns_listApplicants` — the calls, one by one.
* `Office.owns_script` — **each request inserts under identifiers that it drew itself**, each of
  them once, and ends without a conflict if its insertions are accepted.
-/

set_option autoImplicit false

namespace Hiring

/-- Identifiers that were drawn from the counters and not used yet. -/
def Hand : Type := Counter → List String

namespace Hand

/-- No identifiers. -/
def empty : Hand := fun _ => []

/-- The hand with one more identifier. -/
def add (h : Hand) (k : Counter) (id : String) : Hand :=
  fun k' => if k' = k then id :: h k else h k'

/-- The hand without an identifier. -/
def drop (h : Hand) (k : Counter) (id : String) : Hand :=
  fun k' => if k' = k then (h k).erase id else h k'

theorem add_self (h : Hand) (k : Counter) (id : String) : h.add k id k = id :: h k := if_pos rfl

theorem add_of_ne {h : Hand} {k k' : Counter} (hk : k' ≠ k) (id : String) : h.add k id k' = h k' :=
  if_neg hk

theorem drop_self (h : Hand) (k : Counter) (id : String) : h.drop k id k = (h k).erase id :=
  if_pos rfl

theorem drop_of_ne {h : Hand} {k k' : Counter} (hk : k' ≠ k) (id : String) :
    h.drop k id k' = h k' := if_neg hk

theorem mem_add_self (h : Hand) (k : Counter) (id : String) : id ∈ h.add k id k := by
  rw [add_self]
  exact .head _

end Hand

/-- The call neither draws an identifier nor inserts a record. -/
def Call.isPlain : Call → Bool
  | .drawJobId => false
  | .drawApplicantId => false
  | .insertJob _ => false
  | .insertApplicant _ => false
  | _ => true

namespace Script

variable {α β : Type}

/-- With some identifiers in hand, the script inserts under identifiers in hand only, and uses each
of them once.  If its insertions are accepted, its result and what is left in hand fit together. -/
inductive Owns (Q : α → Hand → Prop) : Script α → Hand → Prop
  | done {a : α} {hand : Hand} (h : Q a hand) : Owns Q (.done a) hand
  | drawJob {next : JobId → Script α} {hand : Hand}
      (h : ∀ id, Owns Q (next id) (hand.add .jobs id)) : Owns Q (.call .drawJobId next) hand
  | drawApplicant {next : ApplicantId → Script α} {hand : Hand}
      (h : ∀ id, Owns Q (next id) (hand.add .applicants id)) :
      Owns Q (.call .drawApplicantId next) hand
  | insertJob {job : JobPosting} {next : Except StorageError JobPosting → Script α} {hand : Hand}
      (held : job.id ∈ hand .jobs) (h : Owns Q (next (.ok job)) (hand.drop .jobs job.id)) :
      Owns Q (.call (.insertJob job) next) hand
  | insertApplicant {a : Applicant} {next : Except StorageError Applicant → Script α} {hand : Hand}
      (held : a.id ∈ hand .applicants) (h : Owns Q (next (.ok a)) (hand.drop .applicants a.id)) :
      Owns Q (.call (.insertApplicant a) next) hand
  | plain {c : Call} {next : c.Reply → Script α} {hand : Hand} (hc : c.isPlain = true)
      (h : ∀ (time : Timestamp) (s : Store), Owns Q (next (s.answer time c).1) hand) :
      Owns Q (.call c next) hand

variable {Q Q' : α → Hand → Prop} {hand : Hand}

theorem Owns.mono {script : Script α} (h : script.Owns Q hand)
    (weaken : ∀ a hand, Q a hand → Q' a hand) : script.Owns Q' hand := by
  induction h with
  | done h => exact .done (weaken _ _ h)
  | drawJob _ ih => exact .drawJob ih
  | drawApplicant _ ih => exact .drawApplicant ih
  | insertJob held _ ih => exact .insertJob held ih
  | insertApplicant held _ ih => exact .insertApplicant held ih
  | plain hc _ ih => exact .plain hc ih

/-- A script after another one starts with what the first one left in hand. -/
theorem Owns.bind {R : β → Hand → Prop} {script : Script α} {f : α → Script β}
    (h : script.Owns (fun a hand => (f a).Owns R hand) hand) : (script >>= f).Owns R hand := by
  induction h with
  | done h => exact h
  | drawJob _ ih => exact .drawJob ih
  | drawApplicant _ ih => exact .drawApplicant ih
  | insertJob held _ ih => exact .insertJob held ih
  | insertApplicant held _ ih => exact .insertApplicant held ih
  | plain hc _ ih => exact .plain hc ih

end Script

/-! ## Operations -/

namespace Operation

variable {α β : Type}

/-- The result and what is left in hand fit together, or the error is not a conflict. -/
def Ends (Q : α → Hand → Prop) : Except OfficeError α → Hand → Prop
  | .ok a, hand => Q a hand
  | .error e, _ => e ≠ .storage .conflict

/-- The operation, as a script, inserts under identifiers in hand only.  If its insertions are
accepted, it ends with a fitting result or with an error that is not a conflict. -/
def Owns (Q : α → Hand → Prop) (op : Operation α) (hand : Hand) : Prop :=
  op.run.Owns (Ends Q) hand

variable {Q : α → Hand → Prop} {hand : Hand}

theorem Owns.bind {R : β → Hand → Prop} {op : Operation α} {f : α → Operation β}
    (h : op.Owns (fun a hand => (f a).Owns R hand) hand) : (op >>= f).Owns R hand := by
  refine Script.Owns.bind (f := ExceptT.bindCont f) (Script.Owns.mono h ?_)
  intro result hand hends
  cases result with
  | ok a => exact hends
  | error e => exact .done hends

theorem owns_pure {a : α} (h : Q a hand) : (pure a : Operation α).Owns Q hand := .done h

theorem owns_throw {e : OfficeError} (h : e ≠ .storage .conflict) :
    (throw e : Operation α).Owns Q hand := .done h

theorem owns_require {e : Except InvalidInput α} (h : ∀ a, Q a hand) : (require e).Owns Q hand := by
  cases e with
  | ok a => exact .done (h a)
  | error e => exact .done (by simp [Except.mapError, Ends])

theorem owns_drawJobId {Q : JobId → Hand → Prop} (h : ∀ id, Q id (hand.add .jobs id)) :
    drawJobId.Owns Q hand := .drawJob fun id => .done (h id)

theorem owns_drawApplicantId {Q : ApplicantId → Hand → Prop}
    (h : ∀ id, Q id (hand.add .applicants id)) : drawApplicantId.Owns Q hand :=
  .drawApplicant fun id => .done (h id)

theorem owns_now {Q : Timestamp → Hand → Prop} (h : ∀ time, Q time hand) : now.Owns Q hand :=
  .plain rfl fun time _ => .done (h time)

theorem owns_insertJob {Q : JobPosting → Hand → Prop} {job : JobPosting}
    (held : job.id ∈ hand .jobs) (h : Q job (hand.drop .jobs job.id)) :
    (insertJob job).Owns Q hand := .insertJob held (.done h)

theorem owns_fetchJob {Q : Option JobPosting → Hand → Prop} {id : JobId}
    (h : ∀ found, Q found hand) : (fetchJob id).Owns Q hand :=
  .plain rfl fun _ _ => .done (h _)

theorem owns_listJobs {Q : List JobPosting → Hand → Prop} (h : ∀ jobs, Q jobs hand) :
    listJobs.Owns Q hand := .plain rfl fun _ _ => .done (h _)

theorem owns_insertApplicant {Q : Applicant → Hand → Prop} {a : Applicant}
    (held : a.id ∈ hand .applicants) (h : Q a (hand.drop .applicants a.id)) :
    (insertApplicant a).Owns Q hand := .insertApplicant held (.done h)

theorem owns_updateApplicant {Q : Unit → Hand → Prop} {a : Applicant} (h : Q () hand) :
    (updateApplicant a).Owns Q hand := by
  refine .plain rfl fun time s => .done ?_
  -- A change of a record that is not there fails, but it is not a conflict.
  rw [Store.answer]
  split
  · exact h
  · simp [Except.mapError, Ends]

theorem owns_fetchApplicant {Q : Option Applicant → Hand → Prop} {id : ApplicantId}
    (h : ∀ found, Q found hand) : (fetchApplicant id).Owns Q hand :=
  .plain rfl fun _ _ => .done (h _)

theorem owns_listApplicants {Q : List Applicant → Hand → Prop} {id : JobId}
    (h : ∀ applicants, Q applicants hand) : (listApplicants id).Owns Q hand :=
  .plain rfl fun _ _ => .done (h _)

end Operation

/-! ## Requests -/

namespace Office

open Operation

variable {o : Office} {hand : Hand}

theorem owns_job {Q : JobPosting → Hand → Prop} {id : JobId} (h : ∀ posting, Q posting hand) :
    (job id).Owns Q hand := by
  refine .bind (owns_fetchJob fun found => ?_)
  cases found with
  | some posting => exact owns_pure (h posting)
  | none => exact owns_throw (by simp)

theorem owns_applicant {Q : Applicant → Hand → Prop} {id : ApplicantId} (h : ∀ a, Q a hand) :
    (applicant id).Owns Q hand := by
  refine .bind (owns_fetchApplicant fun found => ?_)
  cases found with
  | some a => exact owns_pure (h a)
  | none => exact owns_throw (by simp)

/-- The identifier of a new job is in hand when the job is inserted. -/
theorem owns_createJob (draft : JobDraft) : (createJob draft).Owns (fun _ _ => True) hand :=
  .bind (owns_require fun _ =>
    .bind (owns_drawJobId fun _ => owns_insertJob (Hand.mem_add_self _ _ _) trivial))

/-- The identifier of a new applicant is in hand when the application is inserted. -/
theorem owns_apply (sub : Submission) : (o.apply sub).Owns (fun _ _ => True) hand :=
  .bind (owns_require fun _ =>
    .bind (owns_job fun _ =>
      .bind (owns_drawApplicantId fun _ =>
        .bind (owns_now fun _ =>
          .bind (owns_insertApplicant (Hand.mem_add_self _ _ _) (owns_pure trivial))))))

theorem owns_rescreen (id : ApplicantId) : (o.rescreen id).Owns (fun _ _ => True) hand :=
  .bind (owns_applicant fun _ =>
    .bind (owns_job fun _ =>
      .bind (owns_updateApplicant (owns_pure trivial))))

theorem owns_moveTo (id : ApplicantId) (stage : Stage) :
    (moveTo id stage).Owns (fun _ _ => True) hand :=
  .bind (owns_applicant fun _ => .bind (owns_updateApplicant (owns_pure trivial)))

theorem owns_tryScreening (id : JobId) (trial : TrialRequest) :
    (o.tryScreening id trial).Owns (fun _ _ => True) hand := by
  refine .bind (owns_job fun posting => ?_)
  split
  · exact owns_pure trivial
  · exact owns_pure trivial

theorem owns_operation (o : Office) (r : Request) (hand : Hand) :
    (o.operation r).Owns (fun _ _ => True) hand := by
  cases r with
  | createJob draft => exact owns_createJob draft
  | job id => exact owns_job fun _ => trivial
  | jobs => exact .bind (owns_listJobs fun _ => owns_pure trivial)
  | apply sub => exact owns_apply sub
  | applicant id => exact owns_applicant fun _ => trivial
  | rescreen id => exact owns_rescreen id
  | tryScreening id trial => exact owns_tryScreening id trial
  | moveTo id stage => exact owns_moveTo id stage
  | applicantsFor id =>
    exact .bind (owns_job fun _ => .bind (owns_listApplicants fun _ => owns_pure trivial))

/-- The answer is not that a record is stored under the identifier already. -/
def NoConflict (answered : Answered) : Prop := answered.2 ≠ .error (.storage .conflict)

/-- **Each request inserts under identifiers that it drew itself**, and it ends without a conflict
if its insertions are accepted. -/
theorem owns_script (o : Office) (r : Request) (hand : Hand) :
    (o.script r).Owns (fun answered _ => NoConflict answered) hand := by
  refine Script.Owns.bind (Script.Owns.mono (owns_operation o r hand) ?_)
  intro result hand hends
  refine .done ?_
  cases result with
  | ok a => exact nofun
  | error e => exact fun he => hends (Except.error.inj he)

end Office

end Hiring
