import Hiring.Proofs.Office.Histories
import Hiring.Proofs.Office.Interleaving

/-!
# Lost updates

Nothing keeps other requests out between the call that fetches an application and the call that
stores the changed copy.  A history tells what comes of it: the stored record is the one before all
requests with the touches that it shows, and the others are lost.

* `Touch.scriptAt` — what is left of the script of a request in each phase.
* `History.take_pool` — **requests under way do what their history says**, call by call.
* `Office.together_oneByOne` — calls in which requests follow each other do what a run does.
* `Office.serializable_iff` — **when nothing is lost**: the stored record is the one that the same
  requests store in some order one after the other exactly if a screening is shown and a move is
  shown, except where that makes no difference.
* `Office.hired_lost` — a hired applicant is put back among the shortlisted.
-/

set_option autoImplicit false

namespace Hiring

/-! ## Scripts with a history -/

namespace Office

/-- The rest of a screening after the record was fetched. -/
def rescreenFetched (o : Office) (a : Applicant) : Operation Rescreening := do
  let job ← job a.jobId
  let verdict := o.screen job (a.answers.getD .null) a.score
  let a := withVerdict a verdict
  Operation.updateApplicant a
  return ⟨a, verdict⟩

/-- The rest of a screening after the verdict is known. -/
def storeScreened (a : Applicant) (v : Verdict) : Operation Rescreening := do
  Operation.updateApplicant a
  return ⟨a, v⟩

/-- The rest of a move after the record was fetched and changed. -/
def storeMoved (a : Applicant) : Operation Applicant := do
  Operation.updateApplicant a
  return a

end Office

namespace Touch

open Office

section Definitions

variable (o : Office) (v : Verdict) (a : Applicant)

/-- The answer to a touch that changed a copy of the record `a`. -/
def answered (t : Touch) (seen : List Touch) : Answered :=
  match t with
  | .rescreen => ⟨.rescreen a.id, .ok ⟨applyAll v (seen ++ [t]) a, v⟩⟩
  | .moveTo stage => ⟨.moveTo a.id stage, .ok (applyAll v (seen ++ [t]) a)⟩

/-- What is left of the script of a touch of the record `a`, if screening gives the verdict. -/
def scriptAt (t : Touch) : Phase → Script Answered
  | .waiting => o.script (t.request a.id)
  | .fetched seen =>
    match t with
    | .rescreen => asScript (.rescreen a.id) (o.rescreenFetched (applyAll v seen a))
    | .moveTo stage => asScript (.moveTo a.id stage) (storeMoved (applyAll v (seen ++ [t]) a))
  | .judged seen =>
    match t with
    | .rescreen => asScript (.rescreen a.id) (storeScreened (applyAll v (seen ++ [t]) a) v)
    | .moveTo stage => asScript (.moveTo a.id stage) (storeMoved (applyAll v (seen ++ [t]) a))
  | .ended seen => .done (t.answered v a seen)

end Definitions

variable {o : Office} {v : Verdict} {a : Applicant} {job : JobPosting} {s : Store}

/-- A changed copy takes the place of the record that is stored by then, whatever that shows. -/
theorem advance_update {r : Request} (f : Unit → Operation r.Result) (time : Timestamp)
    (shown us : List Touch) :
    (asScript r (Operation.updateApplicant (applyAll v us a) >>= f)).advance time
        (s.put (applyAll v shown a)) =
      (asScript r (f ()), s.put (applyAll v us a)) := by
  have hid : (applyAll v us a).id = (applyAll v shown a).id := by
    rw [applyAll_id, applyAll_id]
  have hstored : (s.put (applyAll v shown a)).applicants.contains (applyAll v us a).id = true := by
    rw [hid]
    exact Store.contains_put_self
  rw [advance_updateApplicant hstored, Store.put_put hid]

theorem advance_storeScreened (time : Timestamp) (shown seen : List Touch) :
    (scriptAt o v a .rescreen (.judged seen)).advance time (s.put (applyAll v shown a)) =
      (scriptAt o v a .rescreen (.ended seen), s.put (applyAll v (seen ++ [.rescreen]) a)) := by
  rw [scriptAt, storeScreened, advance_update]
  rfl

theorem advance_storeMoved (time : Timestamp) (shown seen : List Touch) (stage : Stage) :
    (asScript (.moveTo a.id stage) (storeMoved (applyAll v (seen ++ [.moveTo stage]) a))).advance
        time (s.put (applyAll v shown a)) =
      (scriptAt o v a (.moveTo stage) (.ended seen),
        s.put (applyAll v (seen ++ [.moveTo stage]) a)) := by
  rw [storeMoved, advance_update]
  rfl

/-- A call of a touch takes it to its next phase, and the stored record along. -/
theorem advance_scriptAt (listed : s.jobs.get? a.jobId = some job) (hv : o.verdictOn job a = v)
    (time : Timestamp) (t : Touch) (phase : Phase) (shown : List Touch) :
    (t.scriptAt o v a phase).advance time (s.put (applyAll v shown a)) =
      (t.scriptAt o v a (phase.next t shown).1,
        s.put (applyAll v (phase.next t shown).2 a)) := by
  have hstored : (s.put (applyAll v shown a)).applicants.get? a.id = some (applyAll v shown a) :=
    Store.get?_put (applyAll_id shown a)
  -- one case for each call; only the fetch of the record depends on what others have stored
  cases phase with
  | waiting =>
    cases t with
    | rescreen => exact advance_applicant (r := .rescreen a.id) hstored o.rescreenFetched
    | moveTo stage =>
      have hcopy : applyAll v (shown ++ [.moveTo stage]) a = { applyAll v shown a with stage } := by
        rw [applyAll_append]
        rfl
      show (asScript (.moveTo a.id stage)
        (applicant a.id >>= fun a => storeMoved { a with stage })).advance time _ = _
      rw [advance_applicant hstored, ← hcopy]
      rfl
  | fetched seen =>
    cases t with
    | rescreen =>
      have hcopy : applyAll v (seen ++ [.rescreen]) a = withVerdict (applyAll v seen a) v := by
        rw [applyAll_append]
        rfl
      have hverdict : o.verdictOn job (applyAll v seen a) = v := by
        rw [verdictOn_applyAll, hv]
      have hjob : (s.put (applyAll v shown a)).jobs.get? (applyAll v seen a).jobId = some job := by
        rw [applyAll_jobId]
        exact listed
      show (asScript (.rescreen a.id) (Office.job (applyAll v seen a).jobId >>= fun job =>
        storeScreened (withVerdict (applyAll v seen a) (o.verdictOn job (applyAll v seen a)))
          (o.verdictOn job (applyAll v seen a)))).advance time _ = _
      rw [advance_job hjob, hverdict, ← hcopy]
      rfl
    | moveTo stage => exact advance_storeMoved time shown seen stage
  | judged seen =>
    cases t with
    | rescreen => exact advance_storeScreened time shown seen
    | moveTo stage => exact advance_storeMoved time shown seen stage
  | ended seen => rfl

theorem isDone_scriptAt_ended (t : Touch) (seen : List Touch) :
    (t.scriptAt o v a (.ended seen)).isDone = true := rfl

/-- A script that has come to its end has stored its copy. -/
theorem ended_of_scriptAt {t : Touch} {phase : Phase}
    (h : (t.scriptAt o v a phase).isDone = true) : ∃ seen, phase = .ended seen := by
  cases phase with
  | waiting => cases t <;> cases h
  | fetched seen => cases t <;> cases h
  | judged seen => cases t <;> cases h
  | ended seen => exact ⟨seen, rfl⟩

end Touch

/-! ## Following a history -/

namespace History

section Pool

variable {o : Office} {v : Verdict} {a : Applicant} {job : JobPosting} {s : Store}

/-- The scripts that are under way and the storage, as a history of touches of `a` tells them. -/
def pool (o : Office) (v : Verdict) (a : Applicant) (s : Store) (h : History) :
    Pool Office.Answered :=
  ⟨h.phases.map fun p => p.1.scriptAt o v a p.2, s.put (Touch.applyAll v h.shown a)⟩

theorem start_pool (stored : s.applicants.get? a.id = some a) (touches : List Touch) :
    o.together (touches.map (Touch.request a.id)) s = (start touches).pool o v a s := by
  have hscripts : (touches.map fun t => (t, Phase.waiting)).map
      (fun p => p.1.scriptAt o v a p.2) = (touches.map (Touch.request a.id)).map o.script := by
    rw [List.map_map, List.map_map]
    rfl
  have hstore : s.put (Touch.applyAll v [] a) = s := Store.put_stored stored
  rw [Office.together, pool, start, hscripts, hstore]

theorem turn_pool (listed : s.jobs.get? a.jobId = some job) (hv : o.verdictOn job a = v)
    (h : History) (i : Nat) (time : Timestamp) :
    (h.pool o v a s).turn i time = (h.turn i).pool o v a s := by
  rw [Pool.turn, History.turn, pool, List.getElem?_map]
  cases hi : h.phases[i]? with
  | none => simp only [Option.map_none, pool]
  | some p =>
    obtain ⟨t, phase⟩ := p
    simp only [Option.map_some, Touch.advance_scriptAt listed hv, pool, List.map_set]

/-- **Touches under way do what their history says.** -/
theorem take_pool (listed : s.jobs.get? a.jobId = some job) (hv : o.verdictOn job a = v)
    (turns : List (Nat × Timestamp)) (h : History) :
    (h.pool o v a s).take turns = (h.take (turns.map (·.1))).pool o v a s := by
  induction turns generalizing h with
  | nil => rfl
  | cons t turns ih =>
    have hfirst : (h.pool o v a s).take (t :: turns) =
        ((h.pool o v a s).turn t.1 t.2).take turns := rfl
    rw [hfirst, turn_pool listed hv]
    exact ih (h.turn t.1)

/-- When touches have come to their ends, the stored record shows some of them. -/
theorem Sound.shown_ne_nil_of_finished {touches : List Touch} {h : History}
    (hs : Sound touches h) (finished : (h.pool o v a s).Finished) (hne : touches ≠ []) :
    h.shown ≠ [] := by
  obtain ⟨t, ht⟩ := List.exists_mem_of_ne_nil _ hne
  rw [← hs.names] at ht
  obtain ⟨p, hp, -⟩ := List.mem_map.1 ht
  obtain ⟨seen, he⟩ := Touch.ended_of_scriptAt (finished _ (List.mem_map_of_mem hp))
  exact hs.shown_ne_nil p hp seen he

end Pool

end History

/-! ## When nothing is lost -/

namespace Office

variable {o : Office} {a : Applicant} {job : JobPosting} {s : Store}

/-- Touches that came to their ends leave the record with those of them that it shows. -/
theorem store_together (stored : s.applicants.get? a.id = some a)
    (listed : s.jobs.get? a.jobId = some job) (touches : List Touch)
    (turns : List (Nat × Timestamp)) :
    ((o.together (touches.map (Touch.request a.id)) s).take turns).store =
      s.put (Touch.applyAll (o.verdictOn job a) (shownAfter touches (turns.map (·.1))) a) := by
  rw [History.start_pool (v := o.verdictOn job a) stored, History.take_pool listed rfl]
  rfl

theorem shownAfter_sub (touches : List Touch) (turns : List Nat) :
    ∀ t ∈ shownAfter touches turns, t ∈ touches :=
  ((History.sound_start touches).take turns).shown_sub

theorem shownAfter_ne_nil (stored : s.applicants.get? a.id = some a)
    (listed : s.jobs.get? a.jobId = some job) {touches : List Touch}
    {turns : List (Nat × Timestamp)}
    (finished : ((o.together (touches.map (Touch.request a.id)) s).take turns).Finished)
    (hne : touches ≠ []) : shownAfter touches (turns.map (·.1)) ≠ [] := by
  rw [History.start_pool (v := o.verdictOn job a) stored, History.take_pool listed rfl] at finished
  exact ((History.sound_start touches).take _).shown_ne_nil_of_finished finished hne

/-- The record that touches store one after the other. -/
theorem get?_run_touches (stored : s.applicants.get? a.id = some a)
    (listed : s.jobs.get? a.jobId = some job) (time : Timestamp) (order : List Touch) :
    (o.run (order.map fun t => (time, t.request a.id)) s).applicants.get? a.id =
      some (Touch.applyAll (o.verdictOn job a) order a) := by
  have hrun := run_touches (o := o) listed time order
  rw [Store.put_stored stored] at hrun
  rw [hrun]
  exact Store.get?_put (Touch.applyAll_id order a)

/-- **Calls in which requests follow each other do what a run does.**  So the requests can come to
their ends, and a run is one of the orders in which they do. -/
theorem together_oneByOne (stored : s.applicants.get? a.id = some a)
    (listed : s.jobs.get? a.jobId = some job) (time : Timestamp) (touches : List Touch) :
    ((o.together (touches.map (Touch.request a.id)) s).take
        ((oneByOne 0 touches).map fun i => (i, time))).Finished ∧
    ((o.together (touches.map (Touch.request a.id)) s).take
        ((oneByOne 0 touches).map fun i => (i, time))).store =
      o.run (touches.map fun t => (time, t.request a.id)) s := by
  have hturns : ((oneByOne 0 touches).map fun i => (i, time)).map (·.1) = oneByOne 0 touches := by
    rw [List.map_map]
    exact List.map_id _
  constructor
  · obtain ⟨after, hended, htake⟩ := History.take_oneByOne [] [] touches (by simp)
    rw [History.start_pool (v := o.verdictOn job a) stored, History.take_pool listed rfl, hturns]
    intro script hscript
    have hphases : ((History.start touches).take (oneByOne 0 touches)).phases = after :=
      congrArg History.phases htake
    rw [History.pool, hphases] at hscript
    obtain ⟨⟨t, phase⟩, hp, rfl⟩ := List.mem_map.1 hscript
    obtain ⟨seen, rfl⟩ := hended _ hp
    exact Touch.isDone_scriptAt_ended t seen
  · have hrun := run_touches (o := o) listed time touches
    rw [Store.put_stored stored] at hrun
    rw [store_together stored listed, hturns, shownAfter_oneByOne, hrun]

/-- **When nothing is lost.**  Requests that touch one application of a reachable storage are under
way at once and come to their ends.  The stored record is then the one before with the touches that
it shows.  It is the one that the same requests store in some order one after the other exactly if
it shows a screening, provided there is one and its verdict was not stored already, and shows a
move, provided there is one and no move leads where a screening leads. -/
theorem serializable_iff (o : Office) (s : Store) (reached : o.Reachable s) (id : ApplicantId)
    (a : Applicant) (stored : s.applicants.get? id = some a) (touches : List Touch)
    (turns : List (Nat × Timestamp))
    (finished : ((o.together (touches.map (Touch.request id)) s).take turns).Finished)
    (time : Timestamp) :
    ∃ job b, s.jobs.get? a.jobId = some job ∧
      ((o.together (touches.map (Touch.request id)) s).take turns).store.applicants.get? id =
        some b ∧
      b = Touch.applyAll (o.verdictOn job a) (shownAfter touches (turns.map (·.1))) a ∧
      ((∃ order : List Touch, order.Perm touches ∧
          (o.run (order.map fun t => (time, t.request id)) s).applicants.get? id = some b) ↔
        (.rescreen ∈ touches →
          .rescreen ∈ shownAfter touches (turns.map (·.1)) ∨ a.Carries (o.verdictOn job a)) ∧
        ((∃ stage, .moveTo stage ∈ touches) →
          (∃ stage, .moveTo stage ∈ shownAfter touches (turns.map (·.1))) ∨
            ∃ stage, .moveTo stage ∈ touches ∧
              (a.stage.screened (o.verdictOn job a) = stage ∨
                a.stage.screened (o.verdictOn job a) = stage.screened (o.verdictOn job a)))) := by
  obtain ⟨job, listed⟩ := reached.consistent.job_stored stored
  obtain rfl := reached.consistent.applicant_id stored
  refine ⟨job, _, listed, ?_, rfl, ?_⟩
  · rw [store_together stored listed]
    exact Store.get?_put (Touch.applyAll_id _ a)
  · rw [← Touch.exists_order_iff (shownAfter_sub touches _)
      (shownAfter_ne_nil stored listed finished)]
    simp only [get?_run_touches stored listed, Option.some.injEq]

/-- A storage with one application, which was shortlisted as it came in. -/
def oneShortlisted : Store :=
  run ⟨Screener.standard⟩
    [(⟨2024, 5, 1, 8, 0, 0, 0⟩,
        .createJob ⟨"Staf", "", "", "", [⟨"gelar", .text, "S1, S2", true⟩]⟩),
      (⟨2024, 5, 2, 8, 0, 0, 0⟩, .apply ⟨"job-000001", "Ani", "ani@example.id", none, none, [],
        some (.object [("gelar", .string "S2")]), none⟩)] (.emptyAt 1 1)

/-- A screening that is lost without a difference: its verdict was stored before. -/
theorem serializable_iff_unnoticed :
    ∃ a b, oneShortlisted.applicants.get? "applicant-000001" = some a ∧
      ((together ⟨Screener.standard⟩
          ([Touch.rescreen, .moveTo .hired].map (Touch.request "applicant-000001"))
          oneShortlisted).take
        ([0, 1, 0, 0, 1].map fun i => (i, ⟨2024, 5, 3, 8, 0, 0, 0⟩))).Finished ∧
      shownAfter [.rescreen, .moveTo .hired] [0, 1, 0, 0, 1] = [.moveTo .hired] ∧
      ((together ⟨Screener.standard⟩
          ([Touch.rescreen, .moveTo .hired].map (Touch.request "applicant-000001"))
          oneShortlisted).take
        ([0, 1, 0, 0, 1].map fun i =>
          (i, ⟨2024, 5, 3, 8, 0, 0, 0⟩))).store.applicants.get? "applicant-000001" = some b ∧
      ∃ order : List Touch, order.Perm [.rescreen, .moveTo .hired] ∧
        (run ⟨Screener.standard⟩
          (order.map fun t => (⟨2024, 5, 3, 8, 0, 0, 0⟩, t.request "applicant-000001"))
          oneShortlisted).applicants.get? "applicant-000001" = some b := by
  have reached : Reachable ⟨Screener.standard⟩ oneShortlisted := ⟨_, 1, 1, rfl⟩
  have hstatus : (oneShortlisted.applicants.get? "applicant-000001").map (·.autoScreening) =
      some .lolos := by decide +kernel
  have finished : ((together ⟨Screener.standard⟩
      ([Touch.rescreen, .moveTo .hired].map (Touch.request "applicant-000001"))
      oneShortlisted).take
        ([0, 1, 0, 0, 1].map fun i => (i, ⟨2024, 5, 3, 8, 0, 0, 0⟩))).Finished := by decide +kernel
  obtain ⟨a, stored, hlolos⟩ := Option.map_eq_some_iff.1 hstatus
  obtain ⟨job, b, listed, hb, -, hserial⟩ := serializable_iff ⟨Screener.standard⟩ oneShortlisted
    reached _ a stored [.rescreen, .moveTo .hired] _ finished ⟨2024, 5, 3, 8, 0, 0, 0⟩
  have hcarries : a.Carries (verdictOn ⟨Screener.standard⟩ job a) := by
    refine (reached.allCurrent _ a job stored listed).resolve_left fun hu => ?_
    rw [hu.1] at hlolos
    cases hlolos
  exact ⟨a, b, stored, finished, rfl, hb,
    hserial.2 ⟨fun _ => .inr hcarries, fun _ => .inl ⟨.hired, .head _⟩⟩⟩

/-- **A move is lost.**  A screening begins while an applicant is shortlisted; meanwhile the
applicant is hired; at its end the screening puts the applicant back among the shortlisted.  One
after the other, in either order, the two requests leave a hired applicant. -/
theorem hired_lost :
    Reachable ⟨Screener.standard⟩ oneShortlisted ∧
    (((together ⟨Screener.standard⟩
        ([Touch.rescreen, .moveTo .hired].map (Touch.request "applicant-000001"))
        oneShortlisted).take
      ([0, 0, 1, 1].map fun i => (i, ⟨2024, 5, 3, 8, 0, 0, 0⟩))).store.applicants.get?
        "applicant-000001").map (·.stage) = some .hired ∧
    ((together ⟨Screener.standard⟩
        ([Touch.rescreen, .moveTo .hired].map (Touch.request "applicant-000001"))
        oneShortlisted).take
      ([0, 0, 1, 1, 0].map fun i => (i, ⟨2024, 5, 3, 8, 0, 0, 0⟩))).Finished ∧
    (((together ⟨Screener.standard⟩
        ([Touch.rescreen, .moveTo .hired].map (Touch.request "applicant-000001"))
        oneShortlisted).take
      ([0, 0, 1, 1, 0].map fun i => (i, ⟨2024, 5, 3, 8, 0, 0, 0⟩))).store.applicants.get?
        "applicant-000001").map (·.stage) = some .shortlisted ∧
    ∀ (order : List Touch) (time : Timestamp), order.Perm [.rescreen, .moveTo .hired] →
      ((run ⟨Screener.standard⟩ (order.map fun t => (time, t.request "applicant-000001"))
        oneShortlisted).applicants.get? "applicant-000001").map (·.stage) = some .hired := by
  have reached : Reachable ⟨Screener.standard⟩ oneShortlisted := ⟨_, 1, 1, rfl⟩
  refine ⟨reached, by decide +kernel, by decide +kernel, by decide +kernel, ?_⟩
  intro order time hperm
  have hsome : (oneShortlisted.applicants.get? "applicant-000001").isSome = true := by
    decide +kernel
  obtain ⟨a, stored⟩ := Option.isSome_iff_exists.1 hsome
  obtain ⟨job, listed⟩ := reached.consistent.job_stored stored
  have hid := reached.consistent.applicant_id stored
  have hhired : .moveTo .hired ∈ order := hperm.mem_iff.2 (by simp)
  have honly : ∀ s', .moveTo s' ∈ order → s' = .hired := fun s' hmove => by
    simpa using hperm.mem_iff.1 hmove
  rw [← hid] at stored ⊢
  rw [get?_run_touches stored listed, Option.map_some, Touch.applyAll_stage,
    Touch.stageAfter_past rfl hhired honly]

end Office

end Hiring
