import Hiring.Proofs.Office.Interleaving
import Hiring.Proofs.Office.Numbering

/-!
# Transcripts of calls

What requests do to the storage is a list of calls, whether they come one after the other or at the
same time.  A transcript keeps the calls in the order in which they were made, each with its reply
and with the storage as it was before and after.

* `Exchange` — a call that was made.
* `issued` — the identifiers that were drawn from a counter in the calls of a transcript.
* `Exchange.Accepted` — an insertion went well: it replaced nothing.
* `Script.transcript`, `Office.transcript` — the calls of a script alone, and of requests that are
  handled one after the other.
* `Pool.transcript` — the calls of scripts that are under way together.
* `Counted.run` — requests that are handled one after the other draw the numbers of each counter one
  after the other.
-/

set_option autoImplicit false

namespace Hiring

/-- A call with its reply, and the storage before and after it. -/
structure Exchange where
  call : Call
  reply : call.Reply
  before : Store
  after : Store

namespace Exchange

/-- The call made to a storage at a time. -/
def ofCall (time : Timestamp) (c : Call) (s : Store) : Exchange :=
  ⟨c, (s.answer time c).1, s, (s.answer time c).2⟩

/-- The identifier that was drawn from a counter. -/
def drawn? : Counter → Exchange → Option String
  | .jobs, ⟨.drawJobId, id, _, _⟩ => some id
  | .applicants, ⟨.drawApplicantId, id, _, _⟩ => some id
  | _, _ => none

/-- An insertion is answered with the record and puts it where nothing was stored.  Of other calls
nothing is asked. -/
def Accepted : Exchange → Prop
  | ⟨.insertJob job, reply, before, after⟩ =>
    reply = .ok job ∧ before.jobs.get? job.id = none ∧ after = before.post job
  | ⟨.insertApplicant a, reply, before, after⟩ =>
    reply = .ok a ∧ before.applicants.get? a.id = none ∧ after = before.put a
  | _ => True

end Exchange

/-! ## Identifiers that were drawn -/

/-- The identifiers that were drawn from a counter, in their order. -/
def issued (k : Counter) (log : List Exchange) : List String := log.filterMap (Exchange.drawn? k)

/-- No counter has come round: of each at most all numbers were drawn once. -/
def InRange (log : List Exchange) : Prop := ∀ k, (issued k log).length ≤ 2 ^ 64

section Drawn

variable {k : Counter} {log more : List Exchange} {e : Exchange}

theorem issued_append : issued k (log ++ more) = issued k log ++ issued k more :=
  List.filterMap_append

theorem issued_concat : issued k (log ++ [e]) = issued k log ++ (e.drawn? k).toList := by
  rw [issued_append, issued, issued]
  cases hdrawn : e.drawn? k with
  | none => rw [List.filterMap_cons_none hdrawn, List.filterMap_nil, Option.toList_none]
  | some id => rw [List.filterMap_cons_some hdrawn, List.filterMap_nil, Option.toList_some]

theorem InRange.of_append (h : InRange (log ++ more)) : InRange log := by
  intro k
  have hk := h k
  rw [issued_append, List.length_append] at hk
  exact Nat.le_of_add_right_le hk

end Drawn

/-! ## Transcripts -/

/-- The calls that a script makes at a time, without others in between. -/
def Script.transcript {α : Type} (time : Timestamp) : Script α → Store → List Exchange
  | .done _, _ => []
  | .call c next, s =>
    .ofCall time c s :: (next (s.answer time c).1).transcript time (s.answer time c).2

/-- The calls of requests that are handled one after the other, each at its time. -/
def Office.transcript (o : Office) : List (Timestamp × Request) → Store → List Exchange
  | [], _ => []
  | q :: rest, s =>
    (o.operation q.2).run.transcript q.1 s ++ o.transcript rest (o.handle q.1 q.2 s).2

section Bind

variable {α β : Type}

/-- The calls of a script after another one come behind those of the first one. -/
theorem Script.transcript_bind (script : Script α) (f : α → Script β) (time : Timestamp)
    (s : Store) :
    (script >>= f).transcript time s =
      script.transcript time s ++
        (f (s.run time script).1).transcript time (s.run time script).2 := by
  induction script generalizing s with
  | done a => rfl
  | call c next ih => exact congrArg _ (ih _ _)

theorem Operation.transcript_bind {op : Operation α} {time : Timestamp} {s s' : Store} {a : α}
    (h : op.perform time s = (.ok a, s')) (f : α → Operation β) :
    (op >>= f).run.transcript time s =
      op.run.transcript time s ++ (f a).run.transcript time s' := by
  have hbind := Script.transcript_bind op.run (ExceptT.bindCont f) time s
  have hrun : s.run time op.run = (.ok a, s') := h
  rw [hrun] at hbind
  exact hbind

end Bind

namespace Pool

variable {α : Type}

/-- The call that the script at a position makes next, unless it has ended. -/
def exchange? (p : Pool α) (i : Nat) (time : Timestamp) : Option Exchange :=
  match p.scripts[i]? with
  | some (.call c _) => some (.ofCall time c p.store)
  | _ => none

/-- The calls that scripts make together in an order, which names script and time of each call. -/
def transcript : Pool α → List (Nat × Timestamp) → List Exchange
  | _, [] => []
  | p, t :: rest => (p.exchange? t.1 t.2).toList ++ (p.turn t.1 t.2).transcript rest

theorem exists_of_exchange?_eq_some {p : Pool α} {i : Nat} {time : Timestamp} {e : Exchange}
    (h : p.exchange? i time = some e) :
    ∃ c next, p.scripts[i]? = some (.call c next) ∧ e = .ofCall time c p.store := by
  rw [exchange?] at h
  split at h
  · next c next hscript => exact ⟨c, next, hscript, (Option.some.inj h).symm⟩
  · cases h

/-- A script that has ended, or is not there, changes nothing when it is its turn. -/
theorem turn_of_exchange?_eq_none {p : Pool α} {i : Nat} {time : Timestamp}
    (h : p.exchange? i time = none) : p.turn i time = p := by
  obtain ⟨scripts, store⟩ := p
  rw [exchange?] at h
  rw [turn]
  cases hscript : scripts[i]? with
  | none => rfl
  | some script =>
    cases script with
    | done result =>
      obtain ⟨hi, hdone⟩ := List.getElem?_eq_some_iff.1 hscript
      simp only [Script.advance]
      rw [← hdone, List.set_getElem_self]
    | call c next =>
      simp only [hscript] at h
      cases h

end Pool

/-! ## Counting -/

section Counting

variable {α : Type} {k : Counter} {first : UInt64} {log : List Exchange} {s : Store}

/-- A call draws the next identifier from a counter, or leaves the counter as it is. -/
theorem Exchange.drawn?_ofCall (k : Counter) (time : Timestamp) (c : Call) (s : Store) :
    (ofCall time c s).drawn? k = some (k.idOf (s.next k)) ∧
        (s.answer time c).2.next k = s.next k + 1 ∨
      (ofCall time c s).drawn? k = none ∧ (s.answer time c).2.next k = s.next k := by
  cases c with
  | drawJobId =>
    cases k with
    | jobs => exact .inl ⟨rfl, rfl⟩
    | applicants => exact .inr ⟨rfl, rfl⟩
  | drawApplicantId =>
    cases k with
    | jobs => exact .inr ⟨rfl, rfl⟩
    | applicants => exact .inl ⟨rfl, rfl⟩
  | insertJob _ | insertApplicant _ | updateApplicant _ =>
    refine .inr ⟨by cases k <;> rfl, ?_⟩
    rw [Store.answer]
    split <;> cases k <;> rfl
  | _ => exact .inr ⟨by cases k <;> rfl, rfl⟩

theorem Counted.call (h : Counted k first (issued k log) (s.next k)) (time : Timestamp)
    (c : Call) :
    Counted k first (issued k (log ++ [.ofCall time c s])) ((s.answer time c).2.next k) := by
  rw [issued_concat]
  obtain ⟨hdrawn, hnext⟩ | ⟨hdrawn, hnext⟩ := Exchange.drawn?_ofCall k time c s
  · rw [hdrawn, hnext, Option.toList_some]
    exact h.draw
  · rw [hdrawn, hnext, Option.toList_none, List.append_nil]
    exact h

theorem Counted.script (h : Counted k first (issued k log) (s.next k)) (time : Timestamp)
    (script : Script α) :
    Counted k first (issued k (log ++ script.transcript time s))
      ((s.run time script).2.next k) := by
  induction script generalizing log s with
  | done a =>
    rw [Script.transcript, List.append_nil]
    exact h
  | call c next ih =>
    rw [Script.transcript, List.append_cons]
    exact ih _ (h.call time c)

/-- **Requests draw the numbers of a counter one after the other.** -/
theorem Counted.run (h : Counted k first (issued k log) (s.next k)) (o : Office)
    (requests : List (Timestamp × Request)) :
    Counted k first (issued k (log ++ o.transcript requests s)) ((o.run requests s).next k) := by
  induction requests generalizing log s with
  | nil =>
    rw [Office.transcript, List.append_nil]
    exact h
  | cons q rest ih =>
    rw [Office.transcript, ← List.append_assoc]
    exact ih (h.script q.1 (o.operation q.2).run)

end Counting

end Hiring
