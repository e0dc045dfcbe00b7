import Hiring.Proofs.Office.Requests

/-!
# Requests at the same time

Several requests can be under way at once.  Each call to the storage is answered as a whole, but
between two calls of one request those of others may come, in any order.

* `Script.advance` — a script makes its next call.
* `Pool`, `Pool.turn`, `Pool.take` — scripts under way with the storage that they share; one of
  them makes its next call; they make their calls in some order.
* `Pool.Finished` — all scripts have come to their ends.
* `Office.script`, `Office.together` — a request as a script, and requests under way at once.
-/

set_option autoImplicit false

namespace Hiring

/-- A script makes its next call at a time.  One that has ended makes none. -/
def Script.advance {α : Type} (time : Timestamp) : Script α → Store → Script α × Store
  | .done result, s => (.done result, s)
  | .call c next, s => (next (s.answer time c).1, (s.answer time c).2)

theorem Script.advance_call {α : Type} {time : Timestamp} {s s' : Store} {c : Call}
    {reply : c.Reply} (h : s.answer time c = (reply, s')) (next : c.Reply → Script α) :
    (Script.call c next).advance time s = (next reply, s') := by
  rw [advance, h]

/-- The script has come to its end. -/
def Script.isDone {α : Type} : Script α → Bool
  | .done _ => true
  | .call _ _ => false

/-- Scripts that are under way, and the storage that they share. -/
structure Pool (α : Type) where
  scripts : List (Script α)
  store : Store

namespace Pool

variable {α : Type}

/-- The script at a position makes its next call at a time. -/
def turn (p : Pool α) (i : Nat) (time : Timestamp) : Pool α :=
  match p.scripts[i]? with
  | some script =>
    ⟨p.scripts.set i (script.advance time p.store).1, (script.advance time p.store).2⟩
  | none => p

/-- The scripts make calls in an order, which names the script and the time of each. -/
def take (p : Pool α) (turns : List (Nat × Timestamp)) : Pool α :=
  turns.foldl (fun p t => p.turn t.1 t.2) p

/-- All scripts have come to their ends. -/
def Finished (p : Pool α) : Prop := ∀ script ∈ p.scripts, script.isDone = true

instance (p : Pool α) : Decidable p.Finished :=
  inferInstanceAs (Decidable (∀ script ∈ p.scripts, script.isDone = true))

end Pool

namespace Office

/-- A request with its answer. -/
abbrev Answered : Type := (r : Request) × Except OfficeError r.Result

/-- An operation that answers a request, as a script. -/
def asScript (r : Request) (op : Operation r.Result) : Script Answered :=
  op.run >>= fun result => .done ⟨r, result⟩

/-- A request as a script. -/
def script (o : Office) (r : Request) : Script Answered := asScript r (o.operation r)

/-- Requests that begin at the same time. -/
def together (o : Office) (requests : List Request) (s : Store) : Pool Answered :=
  ⟨requests.map o.script, s⟩

/-! ## Calls of scripts -/

open Operation

variable {r : Request} {time : Timestamp} {s : Store}

theorem advance_applicant {id : ApplicantId} {a : Applicant}
    (h : s.applicants.get? id = some a) (f : Applicant → Operation r.Result) :
    (asScript r (applicant id >>= f)).advance time s = (asScript r (f a), s) := by
  have hanswer : s.answer time (.fetchApplicant id) = (.ok (some a), s) := by
    rw [Store.answer, h]
  exact Script.advance_call hanswer _

theorem advance_job {id : JobId} {posting : JobPosting} (h : s.jobs.get? id = some posting)
    (f : JobPosting → Operation r.Result) :
    (asScript r (job id >>= f)).advance time s = (asScript r (f posting), s) := by
  have hanswer : s.answer time (.fetchJob id) = (.ok (some posting), s) := by
    rw [Store.answer, h]
  exact Script.advance_call hanswer _

theorem advance_updateApplicant {a : Applicant} (h : s.applicants.contains a.id = true)
    (f : Unit → Operation r.Result) :
    (asScript r (updateApplicant a >>= f)).advance time s = (asScript r (f ()), s.put a) := by
  have hanswer : s.answer time (.updateApplicant a) = (.ok (), s.put a) := if_pos h
  exact Script.advance_call hanswer _

end Office

end Hiring
