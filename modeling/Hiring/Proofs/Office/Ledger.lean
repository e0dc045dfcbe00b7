import Hiring.Proofs.Office.Ownership
import Hiring.Proofs.Office.Transcripts

/-!
# The ledger of identifiers

The books of both counters, kept over calls: the identifiers in hand are those of all requests that
are under way.  One call of a request that owns what it has in hand keeps the ledger, and its
insertions are accepted, since what is in hand is not stored.  This is all there is to show; that
it stays so, whichever request calls next, is an induction over the calls.

* `Ledger` — what the transcript says, what requests have in hand, and what is stored, fit together.
* `Ledger.draw`, `Ledger.store`, `Ledger.keep` — the three sorts of calls.
* `Script.Owns.call` — **one call of a request keeps the ledger, and an insertion is accepted.**
* `Pool.Booked.take` — the same for requests that are under way together, in any order of calls.
* `Office.ledger_run` — the same for requests that are handled one after the other.
-/

set_option autoImplicit false

namespace Hiring

/-- The books of both counters: of the identifiers that were issued since the first numbers, each is
in hand or stored. -/
def Ledger (first : Counter → UInt64) (log : List Exchange) (hands : List Hand) (s : Store) :
    Prop :=
  ∀ k, Books k (first k) (issued k log) (hands.flatMap fun h => h k) (s.keys k) (s.next k)

namespace Ledger

variable {first : Counter → UInt64} {log : List Exchange} {hands others : List Hand} {hand : Hand}
  {s s' : Store} {e : Exchange}

theorem start (nextJob nextApplicant : UInt64) :
    Ledger (Store.emptyAt nextJob nextApplicant).next [] [] (.emptyAt nextJob nextApplicant) := by
  intro k
  cases k with
  | jobs => exact .start .jobs nextJob
  | applicants => exact .start .applicants nextApplicant

/-- Whose hand comes first does not matter. -/
theorem perm (h : Ledger first log hands s) {hands' : List Hand} (hperm : hands.Perm hands') :
    Ledger first log hands' s :=
  fun k => (h k).perm (hperm.flatMap_right _) (.refl _)

/-- Someone who has nothing in hand can join. -/
theorem join (h : Ledger first log hands s) : Ledger first log (Hand.empty :: hands) s := h

/-- A call that draws no identifier and keeps the keys. -/
theorem keep (h : Ledger first log hands s) (hdrawn : ∀ k, e.drawn? k = none)
    (hkeys : ∀ k, (s.keys k).Perm (s'.keys k)) (hnext : ∀ k, s'.next k = s.next k) :
    Ledger first (log ++ [e]) hands s' := by
  intro k
  have hbooks := (h k).perm (.refl _) (hkeys k)
  rwa [issued_concat, hdrawn, Option.toList_none, List.append_nil, hnext]

/-- A call that draws the next identifier from a counter, which the caller has in hand then. -/
theorem draw (h : Ledger first log (hand :: others) s) (k : Counter)
    (hdrawn : ∀ k', e.drawn? k' = if k' = k then some (k.idOf (s.next k)) else none)
    (hkeys : ∀ k', s'.keys k' = s.keys k')
    (hnext : ∀ k', s'.next k' = if k' = k then s.next k + 1 else s.next k') :
    Ledger first (log ++ [e]) (hand.add k (k.idOf (s.next k)) :: others) s' := by
  intro k'
  rw [List.flatMap_cons, issued_concat, hdrawn, hkeys, hnext]
  by_cases hk : k' = k
  · subst hk
    rw [if_pos rfl, if_pos rfl, Hand.add_self, Option.toList_some]
    exact (h k').draw
  · rw [if_neg hk, if_neg hk, Hand.add_of_ne hk, Option.toList_none, List.append_nil]
    exact h k'

/-- A call that stores a record under an identifier that the caller has in hand. -/
theorem store (h : Ledger first log (hand :: others) s) {k : Counter} {id : String}
    (held : id ∈ hand k) (hdrawn : ∀ k', e.drawn? k' = none)
    (hkeys : ∀ k', (s'.keys k').Perm (if k' = k then id :: s.keys k else s.keys k'))
    (hnext : ∀ k', s'.next k' = s.next k') :
    Ledger first (log ++ [e]) (hand.drop k id :: others) s' := by
  intro k'
  have hstored := hkeys k'
  rw [List.flatMap_cons, issued_concat, hdrawn, Option.toList_none, List.append_nil, hnext]
  by_cases hk : k' = k
  · subst hk
    rw [if_pos rfl] at hstored
    rw [Hand.drop_self]
    exact (h k').store ((List.perm_cons_erase held).append_right _) hstored
  · rw [if_neg hk] at hstored
    rw [Hand.drop_of_ne hk]
    exact (h k').perm (.refl _) hstored.symm

/-- **Nothing is stored under an identifier in hand.** -/
theorem not_mem_keys (h : Ledger first log (hand :: others) s) (inRange : InRange log) {k : Counter}
    {id : String} (held : id ∈ hand k) : id ∉ s.keys k :=
  (h k).not_mem_stored (inRange k) (List.mem_append_left _ held)

theorem nodup (h : Ledger first log hands s) (inRange : InRange log) (k : Counter) :
    (issued k log).Nodup := (h k).nodup (inRange k)

/-- **Nothing is stored under the identifier that is drawn next**, unless a counter comes round. -/
theorem fresh (h : Ledger first log hands s) {k : Counter}
    (inRange : (issued k log).length < 2 ^ 64) :
    k.idOf (s.next k) ∉ s.keys k := (h k).fresh inRange

end Ledger

/-! ## One call -/

section Call

variable {first : Counter → UInt64} {log : List Exchange} {hands others : List Hand} {hand : Hand}
  {s : Store}

theorem Store.answer_insertJob {job : JobPosting} (h : s.jobs.get? job.id = none)
    (time : Timestamp) : s.answer time (.insertJob job) = (.ok job, s.post job) := by
  rw [answer, if_neg (Keyed.not_contains_of_get? h)]
  rfl

theorem Store.answer_insertApplicant {a : Applicant} (h : s.applicants.get? a.id = none)
    (time : Timestamp) : s.answer time (.insertApplicant a) = (.ok a, s.put a) := by
  rw [answer, if_neg (Keyed.not_contains_of_get? h)]
  rfl

/-- A call that neither draws nor inserts keeps the ledger. -/
theorem Ledger.plain (h : Ledger first log hands s) {c : Call} (hc : c.isPlain = true)
    (time : Timestamp) : Ledger first (log ++ [.ofCall time c s]) hands (s.answer time c).2 := by
  have hdrawn : ∀ k, (Exchange.ofCall time c s).drawn? k = none := by
    intro k
    cases c with
    | drawJobId => cases hc
    | drawApplicantId => cases hc
    | _ => cases k <;> rfl
  cases c with
  | drawJobId => cases hc
  | drawApplicantId => cases hc
  | insertJob _ => cases hc
  | insertApplicant _ => cases hc
  | now => exact h.keep hdrawn (fun _ => .refl _) fun _ => rfl
  | fetchJob _ => exact h.keep hdrawn (fun _ => .refl _) fun _ => rfl
  | listJobs => exact h.keep hdrawn (fun _ => .refl _) fun _ => rfl
  | fetchApplicant _ => exact h.keep hdrawn (fun _ => .refl _) fun _ => rfl
  | listApplicants _ => exact h.keep hdrawn (fun _ => .refl _) fun _ => rfl
  | updateApplicant a =>
    rw [Store.answer]
    split
    · next hused =>
      refine h.keep hdrawn (fun k => ?_) fun k => by cases k <;> rfl
      cases k with
      | jobs => exact .refl _
      | applicants => exact (Keyed.keys_insert_perm hused a).symm
    · exact h.keep hdrawn (fun _ => .refl _) fun _ => rfl

theorem Exchange.accepted_of_isPlain {c : Call} (hc : c.isPlain = true) (time : Timestamp) :
    (ofCall time c s).Accepted := by
  cases c with
  | insertJob _ => cases hc
  | insertApplicant _ => cases hc
  | _ => trivial

/-- **One call of a request keeps the ledger, and an insertion is accepted.**  The request goes on
with what it has in hand then. -/
theorem Script.Owns.call {α : Type} {Q : α → Hand → Prop} {c : Call} {next : c.Reply → Script α}
    (owns : (Script.call c next).Owns Q hand) (ledger : Ledger first log (hand :: others) s)
    (inRange : InRange log) (time : Timestamp) :
    (Exchange.ofCall time c s).Accepted ∧
      ∃ hand', (next (s.answer time c).1).Owns Q hand' ∧
        Ledger first (log ++ [.ofCall time c s]) (hand' :: others) (s.answer time c).2 := by
  cases owns with
  | drawJob h =>
    exact ⟨trivial, _, h _, ledger.draw .jobs (fun k => by cases k <;> rfl)
      (fun k => by cases k <;> rfl) fun k => by cases k <;> rfl⟩
  | drawApplicant h =>
    exact ⟨trivial, _, h _, ledger.draw .applicants (fun k => by cases k <;> rfl)
      (fun k => by cases k <;> rfl) fun k => by cases k <;> rfl⟩
  | @insertJob job _ _ held h =>
    have hfree : s.jobs.get? job.id = none :=
      Keyed.get?_eq_none_of_not_mem_keys (ledger.not_mem_keys inRange held)
    have hanswer := Store.answer_insertJob hfree time
    refine ⟨⟨congrArg Prod.fst hanswer, hfree, congrArg Prod.snd hanswer⟩,
      hand.drop .jobs job.id, ?_, ?_⟩
    · rw [hanswer]
      exact h
    · rw [hanswer]
      refine ledger.store held (fun k => by cases k <;> rfl) (fun k => ?_)
        fun k => by cases k <;> rfl
      cases k with
      | jobs => exact Keyed.keys_insert_perm_cons hfree job
      | applicants => exact .refl _
  | @insertApplicant a _ _ held h =>
    have hfree : s.applicants.get? a.id = none :=
      Keyed.get?_eq_none_of_not_mem_keys (ledger.not_mem_keys inRange held)
    have hanswer := Store.answer_insertApplicant hfree time
    refine ⟨⟨congrArg Prod.fst hanswer, hfree, congrArg Prod.snd hanswer⟩,
      hand.drop .applicants a.id, ?_, ?_⟩
    · rw [hanswer]
      exact h
    · rw [hanswer]
      refine ledger.store held (fun k => by cases k <;> rfl) (fun k => ?_)
        fun k => by cases k <;> rfl
      cases k with
      | jobs => exact .refl _
      | applicants => exact Keyed.keys_insert_perm_cons hfree a
  | plain hc h =>
    exact ⟨Exchange.accepted_of_isPlain hc time, hand, h time s, ledger.plain hc time⟩

end Call

/-! ## Requests under way together -/

namespace Pool

variable {α : Type}

/-- The scripts of the pool own what they have in hand, and the ledger fits. -/
def Booked (Q : α → Hand → Prop) (first : Counter → UInt64) (log : List Exchange) (p : Pool α) :
    Prop :=
  ∃ owners : List (Script α × Hand), p.scripts = owners.map (·.1) ∧
    (∀ owner ∈ owners, owner.1.Owns Q owner.2) ∧ Ledger first log (owners.map (·.2)) p.store

variable {Q : α → Hand → Prop} {first : Counter → UInt64} {log : List Exchange} {p : Pool α}

/-- Scripts that have nothing in hand and own it begin with an empty ledger. -/
theorem booked_start {scripts : List (Script α)} {s : Store}
    (owns : ∀ script ∈ scripts, script.Owns Q Hand.empty) (ledger : Ledger first log [] s) :
    Booked Q first log ⟨scripts, s⟩ := by
  refine ⟨scripts.map fun script => (script, Hand.empty), ?_, ?_, ?_⟩
  · rw [List.map_map]
    exact (List.map_id scripts).symm
  · intro owner howner
    obtain ⟨script, hscript, rfl⟩ := List.mem_map.1 howner
    exact owns script hscript
  · rw [List.map_map]
    clear owns
    induction scripts with
    | nil => exact ledger
    | cons script rest ih => exact ih.join

/-- The script at a position, with what it has in hand, between the other owners. -/
theorem exists_owner {owners : List (Script α × Hand)} {i : Nat} {script : Script α}
    (h : (owners.map (·.1))[i]? = some script) :
    ∃ hand before after, owners = before ++ (script, hand) :: after ∧ before.length = i := by
  rw [List.getElem?_map, Option.map_eq_some_iff] at h
  obtain ⟨⟨script, hand⟩, howner, rfl⟩ := h
  obtain ⟨hi, howner⟩ := List.getElem?_eq_some_iff.1 howner
  refine ⟨hand, owners.take i, owners.drop (i + 1), ?_, List.length_take_of_le (Nat.le_of_lt hi)⟩
  rw [← howner, List.getElem_cons_drop hi, List.take_append_drop]

/-- The call of a script, when it is its turn, keeps the books. -/
theorem Booked.turn (booked : p.Booked Q first log) (inRange : InRange log) (i : Nat)
    (time : Timestamp) :
    (∀ e ∈ p.exchange? i time, e.Accepted) ∧
      (p.turn i time).Booked Q first (log ++ (p.exchange? i time).toList) := by
  cases hcall : p.exchange? i time with
  | none =>
    rw [turn_of_exchange?_eq_none hcall, Option.toList_none, List.append_nil]
    exact ⟨fun e he => absurd he (Option.not_mem_none e), booked⟩
  | some e =>
    obtain ⟨owners, hscripts, howns, ledger⟩ := booked
    obtain ⟨c, next, hscript, rfl⟩ := exists_of_exchange?_eq_some hcall
    rw [Pool.turn, hscript]
    rw [hscripts] at hscript ⊢
    -- The owner who calls is taken out from between the others and put back with its new hand.
    obtain ⟨hand, before, after, rfl, rfl⟩ := exists_owner hscript
    simp only [List.map_append, List.map_cons] at ledger ⊢
    have howner := howns _ (List.mem_append_right before (.head after))
    obtain ⟨haccepted, hand', hnext, hledger⟩ :=
      howner.call (ledger.perm List.perm_middle) inRange time
    refine ⟨?_, before ++ (next (p.store.answer time c).1, hand') :: after, ?_, ?_, ?_⟩
    · intro e he
      rw [Option.mem_some_iff] at he
      rw [← he]
      exact haccepted
    · simp [Script.advance]
    · intro owner howner
      rcases List.mem_append.1 howner with hbefore | hafter
      · exact howns owner (List.mem_append_left _ hbefore)
      · rcases List.mem_cons.1 hafter with rfl | hafter
        · exact hnext
        · exact howns owner (List.mem_append_right _ (.tail _ hafter))
    · rw [List.map_append, List.map_cons]
      exact hledger.perm List.perm_middle.symm

/-- **Whichever script calls next, the books are kept and all insertions are accepted.** -/
theorem Booked.take (booked : p.Booked Q first log) (turns : List (Nat × Timestamp))
    (inRange : InRange (log ++ p.transcript turns)) :
    (∀ e ∈ p.transcript turns, e.Accepted) ∧
      (p.take turns).Booked Q first (log ++ p.transcript turns) := by
  induction turns generalizing p log with
  | nil =>
    rw [transcript, List.append_nil]
    exact ⟨fun _ he => absurd he List.not_mem_nil, booked⟩
  | cons t rest ih =>
    rw [transcript, ← List.append_assoc] at inRange
    obtain ⟨hfirst, hturn⟩ := booked.turn inRange.of_append.of_append t.1 t.2
    obtain ⟨hrest, htake⟩ := ih hturn inRange
    rw [transcript, ← List.append_assoc]
    refine ⟨fun e he => ?_, htake⟩
    rcases List.mem_append.1 he with he | he
    · exact hfirst e (Option.mem_toList.1 he)
    · exact hrest e he

end Pool

/-! ## Requests one after the other -/

/-- A script that runs alone keeps the ledger. -/
theorem Script.Owns.run {α : Type} {Q : α → Hand → Prop} {first : Counter → UInt64}
    {log : List Exchange} {others : List Hand} {hand : Hand} {s : Store} {script : Script α}
    (owns : script.Owns Q hand) (ledger : Ledger first log (hand :: others) s) {time : Timestamp}
    (inRange : InRange (log ++ script.transcript time s)) :
    ∃ hands, Ledger first (log ++ script.transcript time s) hands (s.run time script).2 := by
  induction script generalizing log hand s with
  | done a =>
    rw [transcript, List.append_nil]
    exact ⟨_, ledger⟩
  | call c next ih =>
    obtain ⟨-, hand', hnext, hledger⟩ := owns.call ledger inRange.of_append time
    rw [transcript, List.append_cons] at inRange ⊢
    exact ih _ hnext hledger inRange

namespace Office

variable {o : Office} {first : Counter → UInt64} {s : Store}

theorem ledger_run {log : List Exchange} {hands : List Hand} (ledger : Ledger first log hands s)
    (requests : List (Timestamp × Request)) (inRange : InRange (log ++ o.transcript requests s)) :
    ∃ hands, Ledger first (log ++ o.transcript requests s) hands (o.run requests s) := by
  induction requests generalizing log hands s with
  | nil =>
    rw [transcript, List.append_nil]
    exact ⟨hands, ledger⟩
  | cons q rest ih =>
    rw [transcript, ← List.append_assoc] at inRange ⊢
    obtain ⟨hands', hledger⟩ :=
      Script.Owns.run (owns_operation o q.2 Hand.empty) ledger.join inRange.of_append
    exact ih hledger inRange

/-- **What comes next is not stored.**  After requests that were handled one after the other,
nothing is stored under the identifier that a counter gives next, unless the counter has come
round. -/
theorem fresh_run {nextJob nextApplicant : UInt64} {requests : List (Timestamp × Request)}
    (inRange : ∀ k, (issued k (o.transcript requests (.emptyAt nextJob nextApplicant))).length <
      2 ^ 64) (k : Counter) :
    k.idOf ((o.run requests (.emptyAt nextJob nextApplicant)).next k) ∉
      (o.run requests (.emptyAt nextJob nextApplicant)).keys k := by
  obtain ⟨hands, ledger⟩ := ledger_run (.start nextJob nextApplicant) requests
    fun k => Nat.le_of_lt (inRange k)
  exact ledger.fresh (inRange k)

end Office

end Hiring
