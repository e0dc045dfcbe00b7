import Hiring.Storage.Store

/-!
# A storage that is not always there

Storages other than the one in memory refuse calls for reasons of their own, and may answer from
a copy that is out of date.

* `Outages` — the kinds of calls that are refused at present, and with what.
* `UnreliableStore` — a storage with outages, and with postings that are fetched in place of the
  stored ones.
* `UnreliableStore.answer` — how each call is answered.
-/

namespace Hiring

/-- The kinds of calls that a storage may refuse. -/
inductive Call.Kind where
  | insertJob
  | fetchJob
  | listJobs
  | insertApplicant
  | updateApplicant
  | fetchApplicant
  | listApplicants
deriving Repr, DecidableEq

/-- The refusals in force. -/
abbrev Outages := Call.Kind → Option StorageError

/-- The refusals with the one for a kind of call changed. -/
def Outages.set (outages : Outages) (kind : Call.Kind) (e : Option StorageError) : Outages :=
  fun k => if k = kind then e else outages k

/-- A storage in memory behind outages and outdated copies. -/
structure UnreliableStore where
  store : Store
  outages : Outages
  /-- Postings that are fetched in place of the stored ones. -/
  copies : Keyed JobPosting

namespace UnreliableStore

/-- An empty storage without outages. -/
def initial : UnreliableStore := ⟨.initial, fun _ => none, .empty⟩

/-- The storage refuses a kind of call, or answers it. -/
def guarded {α : Type} (s : UnreliableStore) (kind : Call.Kind)
    (reply : Except StorageError α × Store) : Except StorageError α × UnreliableStore :=
  match s.outages kind with
  | some e => (.error e, s)
  | none => (reply.1, { s with store := reply.2 })

/-- The answer to a call at a time, and the storage after it. -/
def answer (time : Timestamp) (c : Call) (s : UnreliableStore) : c.Reply × UnreliableStore :=
  match c with
  | .drawJobId =>
    let (id, store) := s.store.answer time .drawJobId
    (id, { s with store })
  | .drawApplicantId =>
    let (id, store) := s.store.answer time .drawApplicantId
    (id, { s with store })
  | .now => (time, s)
  | .insertJob job => s.guarded .insertJob (s.store.answer time (.insertJob job))
  | .fetchJob id =>
    s.guarded .fetchJob
      (match s.copies.get? id with
      | some copy => (.ok (some copy), s.store)
      | none => s.store.answer time (.fetchJob id))
  | .listJobs => s.guarded .listJobs (s.store.answer time .listJobs)
  | .insertApplicant a => s.guarded .insertApplicant (s.store.answer time (.insertApplicant a))
  | .updateApplicant a => s.guarded .updateApplicant (s.store.answer time (.updateApplicant a))
  | .fetchApplicant id => s.guarded .fetchApplicant (s.store.answer time (.fetchApplicant id))
  | .listApplicants jobId =>
    s.guarded .listApplicants (s.store.answer time (.listApplicants jobId))

/-- A script at a time, without others in between. -/
def run {α : Type} (time : Timestamp) (script : Script α) (s : UnreliableStore) :
    α × UnreliableStore :=
  script.runWith (answer time) s

end UnreliableStore

end Hiring
