import Hiring.Applicant.Basic

/-!
# Storage calls and scripts

Jobs and applicants are kept in a storage that several requests use at the same time.  A request
is a script: it makes one call after the other, and each call is answered at once and as a whole,
but between two calls of a script the calls of others may come.

* `StorageError` — why a call is refused.
* `Call`, `Call.Reply` — the calls and what each of them is answered with.
* `Script` — the calls of a request, each depending on the replies before it; a monad.
* `Script.run` — a script from start to end without others in between.
-/

namespace Hiring

/-- Why the storage refuses a call. -/
inductive StorageError where
  /-- There is a record with this identifier already. -/
  | conflict
  /-- There is no record to change. -/
  | notFound
  /-- The storage cannot be used, and why. -/
  | unavailable (reason : String)
deriving Repr, DecidableEq

/-- The wording of a refusal. -/
def StorageError.message : StorageError → String
  | .conflict => "record already exists"
  | .notFound => "record not found"
  | .unavailable reason => "repository unavailable: " ++ reason

/-- A call to the storage, to a counter of identifiers, or to the clock. -/
inductive Call where
  | drawJobId
  | drawApplicantId
  | now
  | insertJob (job : JobPosting)
  | fetchJob (id : JobId)
  | listJobs
  | insertApplicant (applicant : Applicant)
  | updateApplicant (applicant : Applicant)
  | fetchApplicant (id : ApplicantId)
  | listApplicants (jobId : JobId)

/-- What a call is answered with. -/
@[reducible] def Call.Reply : Call → Type
  | .drawJobId => JobId
  | .drawApplicantId => ApplicantId
  | .now => Timestamp
  | .insertJob _ => Except StorageError JobPosting
  | .fetchJob _ => Except StorageError (Option JobPosting)
  | .listJobs => Except StorageError (List JobPosting)
  | .insertApplicant _ => Except StorageError Applicant
  | .updateApplicant _ => Except StorageError Unit
  | .fetchApplicant _ => Except StorageError (Option Applicant)
  | .listApplicants _ => Except StorageError (List Applicant)

/-- A request: a result, or a call and how the request goes on with its reply. -/
inductive Script (α : Type) where
  | done (result : α)
  | call (c : Call) (next : c.Reply → Script α)

namespace Script

variable {α β γ : Type}

/-- One script after the other. -/
protected def bind : Script α → (α → Script β) → Script β
  | .done a, f => f a
  | .call c next, f => .call c fun reply => (next reply).bind f

instance : Monad Script where
  pure := .done
  bind := Script.bind

/-- The script of a single call. -/
def ask (c : Call) : Script c.Reply := .call c .done

/-- A script with some answerer of calls, and no other script in between. -/
def runWith {σ : Type} (answer : (c : Call) → σ → c.Reply × σ) : Script α → σ → α × σ
  | .done a, s => (a, s)
  | .call c next, s =>
    let (reply, s) := answer c s
    (next reply).runWith answer s

@[simp] theorem pure_bind (a : α) (f : α → Script β) : (pure a >>= f) = f a := rfl

@[simp] theorem done_bind (a : α) (f : α → Script β) : (Script.done a >>= f) = f a := rfl

@[simp] theorem call_bind (c : Call) (next : c.Reply → Script α) (f : α → Script β) :
    (Script.call c next >>= f) = .call c fun reply => next reply >>= f := rfl

theorem bind_assoc (s : Script α) (f : α → Script β) (g : β → Script γ) :
    (s >>= f) >>= g = s >>= fun a => f a >>= g := by
  induction s with
  | done a => rfl
  | call c next ih =>
    simp only [call_bind]
    congr 1
    funext reply
    exact ih reply

/-- A script after another one goes on from the state that the first one left. -/
theorem runWith_bind {σ : Type} (answer : (c : Call) → σ → c.Reply × σ) (s : Script α)
    (f : α → Script β) (state : σ) :
    (s >>= f).runWith answer state =
      (f (s.runWith answer state).1).runWith answer (s.runWith answer state).2 := by
  induction s generalizing state with
  | done a => rfl
  | call c next ih =>
    simp only [call_bind, runWith]
    exact ih _ _

end Script

end Hiring
