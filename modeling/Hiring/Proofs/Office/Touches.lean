import Hiring.Proofs.Office.StoredScreening

/-!
# Touching one application

Two kinds of requests change a stored application: to screen it again, and to put it into a stage.
As long as the posting stays, each changes the record by a function of its own, and what a number
of them do one after the other depends little on their order: which of the moves comes last, and
whether a screening comes after it.

* `Touch`, `Touch.apply` — such a request, and the record after it.
* `Touch.applyAll_eq` — touches change the stage and what is stored of a screening, nothing else.
* `Touch.stageAfter_cases` — the stages that touches can lead to.
* `Touch.exists_order_iff` — **what some order leads to**: the records that the same touches can
  leave when they come in an order of choice.
* `Office.run_touches` — handled one after the other, touches have just this effect.
-/

set_option autoImplicit false

namespace Hiring

/-- A request that changes a stored application. -/
inductive Touch where
  | rescreen
  | moveTo (stage : Stage)
deriving Repr, DecidableEq

/-- The stage after a screening with a verdict.  Stages past screening are kept. -/
def Stage.screened (v : Verdict) (s : Stage) : Stage :=
  if s.isScreening then .ofStatus v.status else s

theorem Stage.screened_screened (v : Verdict) (s : Stage) :
    (s.screened v).screened v = s.screened v := by
  rw [screened, screened]
  by_cases h : s.isScreening = true
  · rw [if_pos h, if_pos (isScreening_ofStatus v.status)]
  · rw [if_neg h, if_neg h]

namespace Touch

/-- The request for the application with an identifier. -/
def request (id : ApplicantId) : Touch → Request
  | .rescreen => .rescreen id
  | .moveTo stage => .moveTo id stage

section Definitions

variable (v : Verdict)

/-- The record after a touch, if screening gives the verdict. -/
def apply : Touch → Applicant → Applicant
  | .rescreen, a => Office.withVerdict a v
  | .moveTo stage, a => { a with stage }

/-- The stage after a touch, if screening gives the verdict. -/
def stage : Touch → Stage → Stage
  | .rescreen, s => s.screened v
  | .moveTo s, _ => s

/-- The record after touches that come one after the other. -/
def applyAll (ts : List Touch) (a : Applicant) : Applicant := ts.foldl (fun a t => t.apply v a) a

/-- The stage after touches that come one after the other. -/
def stageAfter (ts : List Touch) (s : Stage) : Stage := ts.foldl (fun s t => t.stage v s) s

end Definitions

variable {v : Verdict}

/-! ## What touches do to a record -/

/-- Touches change the stage, and a screening among them leaves its verdict. -/
theorem applyAll_eq (ts : List Touch) (a : Applicant) :
    applyAll v ts a =
      { a with
        stage := stageAfter v ts a.stage
        autoScreening := if .rescreen ∈ ts then .ofStatus v.status else a.autoScreening
        log := if .rescreen ∈ ts then some v.log else a.log } := by
  induction ts generalizing a with
  | nil => simp [applyAll, stageAfter]
  | cons t ts ih =>
    have hfirst : applyAll v (t :: ts) a = applyAll v ts (t.apply v a) := rfl
    rw [hfirst, ih]
    cases t with
    | rescreen => simp [apply, stageAfter, stage, Office.withVerdict, Stage.screened]
    | moveTo s => simp [apply, stageAfter, stage]

@[simp] theorem applyAll_id (ts : List Touch) (a : Applicant) : (applyAll v ts a).id = a.id := by
  rw [applyAll_eq]

@[simp] theorem applyAll_jobId (ts : List Touch) (a : Applicant) :
    (applyAll v ts a).jobId = a.jobId := by
  rw [applyAll_eq]

theorem applyAll_stage (ts : List Touch) (a : Applicant) :
    (applyAll v ts a).stage = stageAfter v ts a.stage := by
  rw [applyAll_eq]

/-- Touches do not change what a verdict depends on. -/
@[simp] theorem verdictOn_applyAll (o : Office) (job : JobPosting) (ts : List Touch)
    (a : Applicant) : o.verdictOn job (applyAll v ts a) = o.verdictOn job a := by
  rw [applyAll_eq]
  rfl

theorem applyAll_append (ts us : List Touch) (a : Applicant) :
    applyAll v (ts ++ us) a = applyAll v us (applyAll v ts a) :=
  List.foldl_append

theorem stageAfter_append (ts us : List Touch) (s : Stage) :
    stageAfter v (ts ++ us) s = stageAfter v us (stageAfter v ts s) :=
  List.foldl_append

/-! ## The stages that touches lead to -/

/-- The stage is that of some move, or that of some move and a screening, or there is no move. -/
theorem stageAfter_cases (ts : List Touch) (s : Stage) :
    (∃ s', .moveTo s' ∈ ts ∧
      (stageAfter v ts s = s' ∨ .rescreen ∈ ts ∧ stageAfter v ts s = s'.screened v)) ∨
    (∀ t ∈ ts, t = .rescreen) ∧ stageAfter v ts s = if ts = [] then s else s.screened v := by
  induction ts generalizing s with
  | nil => simp [stageAfter]
  | cons t ts ih =>
    have hfirst : stageAfter v (t :: ts) s = stageAfter v ts (t.stage v s) := rfl
    rw [hfirst]
    rcases ih (t.stage v s) with ⟨s', hmove, hs'⟩ | ⟨hall, hs'⟩
    · refine .inl ⟨s', .tail _ hmove, ?_⟩
      rcases hs' with hs' | ⟨hr, hs'⟩
      · exact .inl hs'
      · exact .inr ⟨.tail _ hr, hs'⟩
    · cases t with
      | rescreen =>
        refine .inr ⟨by simpa using hall, ?_⟩
        rw [hs']
        simp [stage, Stage.screened_screened]
      | moveTo s' =>
        refine .inl ⟨s', .head _, ?_⟩
        cases ts with
        | nil => exact .inl hs'
        | cons u us =>
          have hu : u = .rescreen := hall u (.head _)
          exact .inr ⟨.tail _ (hu ▸ .head _), by simpa [stage] using hs'⟩

/-- If all moves are to one stage past screening, touches with a move lead to this stage. -/
theorem stageAfter_past {ts : List Touch} {past : Stage} (hpast : past.isScreening = false)
    (hmem : .moveTo past ∈ ts) (honly : ∀ s', .moveTo s' ∈ ts → s' = past) (s : Stage) :
    stageAfter v ts s = past := by
  rcases stageAfter_cases (v := v) ts s with ⟨s', hmove, hs'⟩ | ⟨hall, -⟩
  · obtain rfl := honly s' hmove
    rcases hs' with hs' | ⟨-, hs'⟩
    · exact hs'
    · rw [hs', Stage.screened, if_neg (by simp [hpast])]
  · cases hall _ hmem

/-- A move can come last. -/
theorem exists_order_moveTo {ts : List Touch} {s' : Stage} (h : .moveTo s' ∈ ts) (s : Stage) :
    ∃ order : List Touch, order.Perm ts ∧ stageAfter v order s = s' := by
  refine ⟨ts.erase (.moveTo s') ++ [.moveTo s'], ?_, ?_⟩
  · exact List.perm_append_comm.trans (List.perm_cons_erase h).symm
  · rw [stageAfter_append]
    rfl

/-- A move can come last but for a screening. -/
theorem exists_order_rescreen {ts : List Touch} {s' : Stage} (h : .moveTo s' ∈ ts)
    (hr : .rescreen ∈ ts) (s : Stage) :
    ∃ order : List Touch, order.Perm ts ∧ stageAfter v order s = s'.screened v := by
  have hr' : .rescreen ∈ ts.erase (.moveTo s') := (List.mem_erase_of_ne (by simp)).2 hr
  refine ⟨(ts.erase (.moveTo s')).erase .rescreen ++ [.moveTo s', .rescreen], ?_, ?_⟩
  · refine List.perm_append_comm.trans ?_
    have hlast := ((List.perm_cons_erase hr').symm.cons (.moveTo s' : Touch))
    exact hlast.trans (List.perm_cons_erase h).symm
  · rw [stageAfter_append]
    rfl

/-! ## What some order leads to -/

/-- Touches leave the same record if they lead to the same stage, and if screenings are among both
or among none, unless their verdict is stored already. -/
theorem applyAll_eq_iff {ts us : List Touch} {a : Applicant} :
    applyAll v ts a = applyAll v us a ↔
      stageAfter v ts a.stage = stageAfter v us a.stage ∧
      (.rescreen ∈ ts → .rescreen ∈ us ∨ a.Carries v) ∧
      (.rescreen ∈ us → .rescreen ∈ ts ∨ a.Carries v) := by
  rw [applyAll_eq ts, applyAll_eq us, Applicant.mk.injEq, Applicant.Carries]
  by_cases ht : Touch.rescreen ∈ ts
  · by_cases hu : Touch.rescreen ∈ us
    · simp [ht, hu]
    · simp [ht, hu, and_comm, eq_comm]
  · by_cases hu : Touch.rescreen ∈ us
    · simp [ht, hu, and_comm]
    · simp [ht, hu]

section Order

variable {touches shown : List Touch}

/-- The stage after a part of the touches is the one after all of them in some order, unless all
moves are missing from the part and the screenings in it do not lead where a move leads. -/
theorem exists_order_stage_iff (sub : ∀ t ∈ shown, t ∈ touches)
    (some_shown : touches ≠ [] → shown ≠ []) (s : Stage) :
    (∃ order : List Touch, order.Perm touches ∧
        stageAfter v order s = stageAfter v shown s) ↔
      ((∃ s', .moveTo s' ∈ touches) → (∃ s', .moveTo s' ∈ shown) ∨
        ∃ s', .moveTo s' ∈ touches ∧ (s.screened v = s' ∨ s.screened v = s'.screened v)) := by
  rcases stageAfter_cases (v := v) shown s with ⟨s', hmove, hs'⟩ | ⟨hall, hs⟩
  · -- a move is shown, and an order with this move at its end leads to the same stage
    refine iff_of_true ?_ fun _ => .inl ⟨s', hmove⟩
    rcases hs' with hs' | ⟨hr, hs'⟩
    · obtain ⟨order, hperm, horder⟩ := exists_order_moveTo (v := v) (sub _ hmove) s
      exact ⟨order, hperm, horder.trans hs'.symm⟩
    · obtain ⟨order, hperm, horder⟩ := exists_order_rescreen (v := v) (sub _ hmove) (sub _ hr) s
      exact ⟨order, hperm, horder.trans hs'.symm⟩
  · -- only screenings are shown
    have hno : ¬ ∃ s', Touch.moveTo s' ∈ shown := by
      rintro ⟨s', hmove⟩
      cases hall _ hmove
    constructor
    · rintro ⟨order, hperm, horder⟩ ⟨m, hm⟩
      have hne : shown ≠ [] := some_shown (List.ne_nil_of_mem hm)
      rw [hs, if_neg hne] at horder
      rcases stageAfter_cases (v := v) order s with ⟨s', hmove, hs'⟩ | ⟨horderAll, -⟩
      · refine .inr ⟨s', hperm.mem_iff.1 hmove, ?_⟩
        rcases hs' with hs' | ⟨-, hs'⟩
        · exact .inl (horder.symm.trans hs')
        · exact .inr (horder.symm.trans hs')
      · cases horderAll _ (hperm.mem_iff.2 hm)
    · intro h
      by_cases hm : ∃ s', Touch.moveTo s' ∈ touches
      · obtain ⟨m, hm⟩ := hm
        have hne : shown ≠ [] := some_shown (List.ne_nil_of_mem hm)
        obtain ⟨t, ht⟩ := List.exists_mem_of_ne_nil _ hne
        have hr : .rescreen ∈ touches := hall t ht ▸ sub t ht
        obtain ⟨s', hmove, hs'⟩ := (h ⟨m, hm⟩).resolve_left hno
        rw [hs, if_neg hne]
        rcases hs' with hs' | hs'
        · rw [hs']
          exact exists_order_moveTo hmove s
        · rw [hs']
          exact exists_order_rescreen hmove hr s
      · -- only screenings are there at all
        have htouches : ∀ t ∈ touches, t = .rescreen := by
          intro t ht
          cases t with
          | rescreen => rfl
          | moveTo s' => exact absurd ⟨s', ht⟩ hm
        refine ⟨touches, .refl _, ?_⟩
        rcases stageAfter_cases (v := v) touches s with ⟨s', hmove, -⟩ | ⟨-, hs'⟩
        · exact absurd ⟨s', hmove⟩ hm
        · rw [hs, hs']
          by_cases ht : touches = []
          · have hshown : shown = [] := List.eq_nil_iff_forall_not_mem.2 fun t h => by
              have := sub t h
              simp [ht] at this
            rw [if_pos ht, if_pos hshown]
          · rw [if_neg ht, if_neg (some_shown ht)]

/-- **What some order leads to.**  The record after a part of the touches is the one after all of
them in some order exactly if a screening is in the part, provided there is one and its verdict is
not stored already, and a move is in the part, provided there is one and no move leads where a
screening leads. -/
theorem exists_order_iff (sub : ∀ t ∈ shown, t ∈ touches)
    (some_shown : touches ≠ [] → shown ≠ []) (a : Applicant) :
    (∃ order : List Touch, order.Perm touches ∧ applyAll v order a = applyAll v shown a) ↔
      (.rescreen ∈ touches → .rescreen ∈ shown ∨ a.Carries v) ∧
      ((∃ s, .moveTo s ∈ touches) → (∃ s, .moveTo s ∈ shown) ∨
        ∃ s, .moveTo s ∈ touches ∧
          (a.stage.screened v = s ∨ a.stage.screened v = s.screened v)) := by
  rw [← exists_order_stage_iff sub some_shown]
  constructor
  · rintro ⟨order, hperm, heq⟩
    obtain ⟨hstage, hscreening, -⟩ := applyAll_eq_iff.1 heq
    exact ⟨fun hr => hscreening (hperm.mem_iff.2 hr), order, hperm, hstage⟩
  · rintro ⟨hscreening, order, hperm, hstage⟩
    refine ⟨order, hperm, applyAll_eq_iff.2 ⟨hstage, fun hr => ?_, fun hr => ?_⟩⟩
    · exact hscreening (hperm.mem_iff.1 hr)
    · exact .inl (hperm.mem_iff.2 (sub _ hr))

end Order

end Touch

/-! ## Touches one after the other -/

namespace Office

variable {o : Office} {s : Store} {a : Applicant} {job : JobPosting}

theorem handle_touch (listed : s.jobs.get? a.jobId = some job) (time : Timestamp) (t : Touch) :
    (o.handle time (t.request a.id) (s.put a)).2 =
      s.put (t.apply (o.verdictOn job a) a) := by
  cases t with
  | rescreen =>
    show ((o.rescreen a.id).perform time (s.put a)).2 = _
    rw [perform_rescreen, Store.get?_put_self]
    simp only [Store.put_jobs, listed, Store.contains_put_self, if_true]
    exact Store.put_put rfl
  | moveTo stage =>
    show ((moveTo a.id stage).perform time (s.put a)).2 = _
    rw [perform_moveTo, Store.get?_put_self]
    simp only [Store.contains_put_self, if_true]
    exact Store.put_put rfl

/-- Handled one after the other, touches do to the record what they do one by one. -/
theorem run_touches (listed : s.jobs.get? a.jobId = some job) (time : Timestamp)
    (ts : List Touch) :
    o.run (ts.map fun t => (time, t.request a.id)) (s.put a) =
      s.put (Touch.applyAll (o.verdictOn job a) ts a) := by
  induction ts generalizing a with
  | nil => rfl
  | cons t ts ih =>
    have hfirst : o.run ((t :: ts).map fun t => (time, t.request a.id)) (s.put a) =
        o.run (ts.map fun t => (time, t.request a.id))
          (o.handle time (t.request a.id) (s.put a)).2 := rfl
    have happly := Touch.verdictOn_applyAll (v := o.verdictOn job a) o job [t] a
    have hid := Touch.applyAll_id (v := o.verdictOn job a) [t] a
    have hjob := Touch.applyAll_jobId (v := o.verdictOn job a) [t] a
    rw [hfirst, handle_touch listed]
    rw [← hjob] at listed
    have hrest := ih listed
    rw [happly, hid] at hrest
    exact hrest

end Office

end Hiring
