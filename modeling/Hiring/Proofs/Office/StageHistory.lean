import Hiring.Proofs.Office.Applications
import Hiring.Proofs.Office.StoredScreening

/-!
# How an application comes to its stage

Three sorts of requests write the stage of an application: it comes in with the stage that its
first screening implies, it can be moved by hand into any stage, and screening it again moves it as
long as it is in a stage of screening.  Past screening it is only moved by hand.

* `AutoScreening.stage`, `Applicant.Corresponds` — the stage that goes with what is stored of a
  screening, and an application that is in it.
* `Office.Change.past_iff` — only moves by hand lead past screening, or away from there.
* `Office.Unmoved` — the application was not moved by hand since it came in or was screened last.
* `Office.stage_history` — **who sets the stage**, request by request, and what follows for a whole
  run: an application that is unmoved and in a stage of screening is in the stage that goes with
  its screening.
-/

set_option autoImplicit false

namespace Hiring

/-! ## Stages and screenings -/

/-- The stage that goes with what is stored of a screening. -/
def AutoScreening.stage : AutoScreening → Stage
  | .pending => .applied
  | .lolos => .shortlisted
  | .tidakLolos => .rejected

theorem AutoScreening.stage_ofStatus (status : Verdict.Status) :
    (ofStatus status).stage = .ofStatus status := by
  cases status <;> rfl

/-- What goes with a screening is a stage of screening. -/
theorem AutoScreening.isScreening_stage (s : AutoScreening) : s.stage.isScreening = true := by
  cases s <;> rfl

/-- The application is in the stage that goes with what is stored of its screening. -/
def Applicant.Corresponds (a : Applicant) : Prop := a.stage = a.autoScreening.stage

namespace Office

variable {o : Office} {s s' : Store} {id : ApplicantId} {r : Request} {time : Timestamp}

theorem corresponds_enrol (sub : Submission) (job : JobPosting) (verdict : Option Verdict)
    (id : ApplicantId) (time : Timestamp) : (enrol sub job verdict id time).Corresponds := by
  cases verdict with
  | none => rfl
  | some v => exact (AutoScreening.stage_ofStatus v.status).symm

theorem stage_withVerdict_of_screening {a : Applicant} (h : a.stage.isScreening = true)
    (v : Verdict) : (withVerdict a v).stage = .ofStatus v.status := if_pos h

theorem stage_withVerdict_of_past {a : Applicant} (h : a.stage.isScreening = false)
    (v : Verdict) : (withVerdict a v).stage = a.stage := if_neg (Bool.eq_false_iff.1 h)

/-- After a screening an application is past screening, or in the stage that goes with it. -/
theorem corresponds_withVerdict {a : Applicant} {v : Verdict}
    (h : (withVerdict a v).stage.isScreening = true) : (withVerdict a v).Corresponds := by
  cases hs : a.stage.isScreening with
  | true => exact (stage_withVerdict_of_screening hs v).trans (AutoScreening.stage_ofStatus _).symm
  | false =>
    rw [stage_withVerdict_of_past hs, hs] at h
    cases h

/-! ## Past screening -/

/-- **Only moves by hand lead past screening, or away from there.** -/
theorem Change.past_iff {after : Option Applicant} (hc : o.Change s id r after)
    (notByHand : ∀ stage, r ≠ .moveTo id stage) {stage : Stage} (past : stage.isScreening = false) :
    (∃ a, after = some a ∧ a.stage = stage) ↔
      ∃ a, s.applicants.get? id = some a ∧ a.stage = stage := by
  cases hc with
  | kept => exact Iff.rfl
  | moved stage' _ => exact absurd rfl (notByHand stage')
  | @enrolled sub job time new _ =>
    -- Nothing was stored before, and what comes in is in a stage of screening.
    have hfirst : (enrol sub job (o.firstVerdict job sub) id time).stage.isScreening = true := by
      rw [corresponds_enrol]
      exact AutoScreening.isScreening_stage _
    constructor
    · rintro ⟨a, ha, rfl⟩
      rw [Option.some.injEq] at ha
      rw [← ha, hfirst] at past
      cases past
    · rintro ⟨a, ha, -⟩
      rw [new] at ha
      cases ha
  | @rescreened a job stored _ =>
    have hsame : (withVerdict a (o.verdictOn job a)).stage = stage ↔ a.stage = stage := by
      cases hs : a.stage.isScreening with
      | false => rw [stage_withVerdict_of_past hs]
      | true =>
        rw [stage_withVerdict_of_screening hs]
        refine iff_of_false (fun h => ?_) fun h => ?_
        · rw [← h, Stage.isScreening_ofStatus] at past
          cases past
        · rw [← h, hs] at past
          cases past
    simp only [stored, Option.some.injEq, exists_eq_left', hsame]

/-! ## Since the last screening -/

/-- An application under the identifier that is in a stage of screening is in the one that goes
with its screening. -/
def FollowsScreening (id : ApplicantId) (s : Store) : Prop :=
  ∀ a, s.applicants.get? id = some a → a.stage.isScreening = true → a.Corresponds

/-- Moves by hand apart, each request keeps the stage and the screening together. -/
theorem Change.follows {after : Option Applicant} (hc : o.Change s id r after)
    (notByHand : ∀ stage, r ≠ .moveTo id stage) (h : FollowsScreening id s) (a : Applicant)
    (stored : after = some a) (hs : a.stage.isScreening = true) : a.Corresponds := by
  cases hc with
  | kept => exact h a stored hs
  | moved stage _ => exact absurd rfl (notByHand stage)
  | enrolled time _ _ =>
    rw [Option.some.injEq] at stored
    subst stored
    exact corresponds_enrol _ _ _ _ _
  | rescreened _ _ =>
    rw [Option.some.injEq] at stored
    subst stored
    exact corresponds_withVerdict hs

theorem run_follows (reached : o.Reachable s) {requests : List (Timestamp × Request)}
    (notByHand : ∀ q ∈ requests, ∀ stage, q.2 ≠ .moveTo id stage) (start : FollowsScreening id s) :
    FollowsScreening id (o.run requests s) :=
  run_keeps (Q := fun r => ∀ stage, r ≠ .moveTo id stage) (P := FollowsScreening id)
    (fun hr hs he h a stored => (he.change hs id).follows hr h a stored) notByHand reached start

/-- Screening again brings the stage and the screening together, whatever they were. -/
theorem follows_rescreen (consistent : s.Consistent) (time : Timestamp) :
    FollowsScreening id (o.handle time (.rescreen id) s).2 := by
  intro a stored hs
  cases hget : s.applicants.get? id with
  | none =>
    have hkept : (o.handle time (.rescreen id) s).2 = s := by
      show ((o.rescreen id).perform time s).2 = s
      rw [perform_rescreen, hget]
    rw [hkept, hget] at stored
    cases stored
  | some b =>
    obtain ⟨job, listed⟩ := consistent.job_stored hget
    have hstored : (o.handle time (.rescreen id) s).2.applicants.get? id =
        some (withVerdict b (o.verdictOn job b)) := rescreen_stored consistent hget listed
    rw [hstored, Option.some.injEq] at stored
    subst stored
    exact corresponds_withVerdict hs

/-- No request of the run has moved the application by hand since it came in or was screened last:
the run has a part at its end without such requests, and before that part nothing is stored under
the identifier, or the last request was to screen it. -/
def Unmoved (o : Office) (id : ApplicantId) (start : Store)
    (requests : List (Timestamp × Request)) : Prop :=
  ∃ before after, requests = before ++ after ∧
    (∀ q ∈ after, ∀ stage, q.2 ≠ .moveTo id stage) ∧
    ((o.run before start).applicants.get? id = none ∨
      ∃ earlier time, before = earlier ++ [(time, .rescreen id)])

theorem Unmoved.follows {requests : List (Timestamp × Request)} (reached : o.Reachable s)
    (h : o.Unmoved id s requests) : FollowsScreening id (o.run requests s) := by
  obtain ⟨before, after, rfl, notByHand, hbefore⟩ := h
  rw [run_append]
  refine run_follows (reached.run before) notByHand ?_
  rcases hbefore with hnone | ⟨earlier, time, rfl⟩
  · intro a stored
    rw [hnone] at stored
    cases stored
  · rw [run_append]
    exact follows_rescreen (reached.run earlier).consistent time

/-! ## The whole story -/

/-- **Who sets the stage.**  An application that comes in is in the stage that goes with its
screening, and stored so.  A request that does not move the application by hand neither leads it
past screening nor away from there.  Screening it again in a stage of screening succeeds and stores
a verdict and the stage that the verdict implies.  So after any run in which it was not moved by
hand since it came in or was screened last, it is past screening or in the stage that goes with its
screening. -/
theorem stage_history (o : Office) (id : ApplicantId) :
    (∀ s, o.Reachable s → ∀ time sub receipt, ((o.apply sub).perform time s).1 = .ok receipt →
      receipt.applicant.stage = receipt.applicant.autoScreening.stage ∧
      ((o.apply sub).perform time s).2.applicants.get? receipt.applicant.id =
        some receipt.applicant) ∧
    (∀ s, o.Reachable s → ∀ time r, (∀ stage, r ≠ .moveTo id stage) →
      ∀ stage, stage.isScreening = false →
        ((∃ a, (o.handle time r s).2.applicants.get? id = some a ∧ a.stage = stage) ↔
          ∃ a, s.applicants.get? id = some a ∧ a.stage = stage)) ∧
    (∀ s, o.Reachable s → ∀ time a, s.applicants.get? id = some a → a.stage.isScreening = true →
      ∃ b v, ((o.rescreen id).perform time s).1 = .ok ⟨b, v⟩ ∧
        ((o.rescreen id).perform time s).2.applicants.get? id = some b ∧
        b.Carries v ∧ b.stage = .ofStatus v.status) ∧
    (∀ nextJob nextApplicant requests, o.Unmoved id (.emptyAt nextJob nextApplicant) requests →
      ∀ a, (o.run requests (.emptyAt nextJob nextApplicant)).applicants.get? id = some a →
        a.stage.isScreening = true → a.stage = a.autoScreening.stage) := by
  refine ⟨?_, ?_, ?_, ?_⟩
  · intro s reached time sub receipt applied
    obtain ⟨job, -, -, henrolled, hstore⟩ := apply_ok applied
    constructor
    · rw [henrolled]
      exact corresponds_enrol _ _ _ _ _
    · rw [hstore]
      exact Store.get?_put_self
  · intro s reached time r notByHand stage past
    exact ((effect_handle r).change reached.consistent id).past_iff notByHand past
  · intro s reached time a stored hs
    obtain ⟨job, listed⟩ := reached.consistent.job_stored stored
    refine ⟨withVerdict a (o.verdictOn job a), o.verdictOn job a, ?_,
      rescreen_stored reached.consistent stored listed, ⟨rfl, rfl⟩,
      stage_withVerdict_of_screening hs _⟩
    rw [rescreen_returns reached.consistent stored listed]
  · intro nextJob nextApplicant requests unmoved
    exact unmoved.follows ⟨[], nextJob, nextApplicant, rfl⟩

/-- A submission whose answer is not on the list of `movedRun`. -/
def unlisted : Submission :=
  ⟨"job-000001", "Ani", "ani@example.id", none, none, [],
    some (.object [("gelar", .string "S3")]), none⟩

/-- A position is opened, an applicant is rejected, and is put into a stage by hand. -/
def movedRun (stage : Stage) : List (Timestamp × Request) :=
  [(⟨2024, 5, 1, 8, 0, 0, 0⟩,
      .createJob ⟨"Staf", "", "", "", [⟨"gelar", .text, "S1, S2", true⟩]⟩),
    (⟨2024, 5, 2, 8, 0, 0, 0⟩, .apply unlisted),
    (⟨2024, 5, 3, 8, 0, 0, 0⟩, .moveTo "applicant-000001" stage)]

/-- An applicant is rejected.  Hired by hand and screened again, the applicant stays hired; put
back by hand and screened again, the applicant is rejected once more. -/
theorem stage_history_back :
    (∃ receipt, ((apply ⟨Screener.standard⟩ unlisted).perform ⟨2024, 5, 2, 8, 0, 0, 0⟩
        (run ⟨Screener.standard⟩ ((movedRun .hired).take 1) (.emptyAt 1 1))).1 = .ok receipt ∧
      receipt.applicant.stage = receipt.applicant.autoScreening.stage) ∧
    (∃ a, (run ⟨Screener.standard⟩
        (movedRun .hired ++ [(⟨2024, 5, 4, 8, 0, 0, 0⟩, .rescreen "applicant-000001")])
        (.emptyAt 1 1)).applicants.get? "applicant-000001" = some a ∧ a.stage = .hired) ∧
    (∃ b v, ((rescreen ⟨Screener.standard⟩ "applicant-000001").perform ⟨2024, 5, 4, 8, 0, 0, 0⟩
        (run ⟨Screener.standard⟩ (movedRun .applied) (.emptyAt 1 1))).1 = .ok ⟨b, v⟩ ∧
      b.stage = .ofStatus v.status) ∧
    ∃ a, (run ⟨Screener.standard⟩
        (movedRun .applied ++ [(⟨2024, 5, 4, 8, 0, 0, 0⟩, .rescreen "applicant-000001")])
        (.emptyAt 1 1)).applicants.get? "applicant-000001" = some a ∧
      a.stage = a.autoScreening.stage ∧ a.stage = .rejected := by
  have hhired : ((run ⟨Screener.standard⟩ (movedRun .hired) (.emptyAt 1 1)).applicants.get?
      "applicant-000001").map (·.stage) = some .hired := by decide +kernel
  have happlied : ((run ⟨Screener.standard⟩ (movedRun .applied) (.emptyAt 1 1)).applicants.get?
      "applicant-000001").map (·.stage) = some .applied := by decide +kernel
  have hrejected : ((run ⟨Screener.standard⟩
        (movedRun .applied ++ [(⟨2024, 5, 4, 8, 0, 0, 0⟩, .rescreen "applicant-000001")])
        (.emptyAt 1 1)).applicants.get? "applicant-000001").map (·.stage) = some .rejected := by
    decide +kernel
  obtain ⟨hcomes, hpast, hagain, hrun⟩ :=
    stage_history ⟨Screener.standard⟩ "applicant-000001"
  refine ⟨?_, ?_, ?_, ?_⟩
  · exact ⟨_, rfl, (hcomes _ ⟨(movedRun .hired).take 1, 1, 1, rfl⟩ ⟨2024, 5, 2, 8, 0, 0, 0⟩
      unlisted _ rfl).1⟩
  · exact (hpast _ ⟨movedRun .hired, 1, 1, rfl⟩ ⟨2024, 5, 4, 8, 0, 0, 0⟩
      (.rescreen "applicant-000001") (fun _ h => by cases h) .hired rfl).2
        (Option.map_eq_some_iff.1 hhired)
  · obtain ⟨a, ha, hstage⟩ := Option.map_eq_some_iff.1 happlied
    obtain ⟨b, v, hb, -, -, hv⟩ := hagain _ ⟨movedRun .applied, 1, 1, rfl⟩
      ⟨2024, 5, 4, 8, 0, 0, 0⟩ a ha (by rw [hstage]; rfl)
    exact ⟨b, v, hb, hv⟩
  · obtain ⟨a, ha, hstage⟩ := Option.map_eq_some_iff.1 hrejected
    have unmoved : Unmoved ⟨Screener.standard⟩ "applicant-000001" (.emptyAt 1 1)
        (movedRun .applied ++ [(⟨2024, 5, 4, 8, 0, 0, 0⟩, .rescreen "applicant-000001")]) :=
      ⟨_, [], (List.append_nil _).symm, fun q hq => by (cases hq),
        .inr ⟨movedRun .applied, _, rfl⟩⟩
    exact ⟨a, ha, hrun 1 1 _ unmoved a ha (by rw [hstage]; rfl), hstage⟩

end Office

end Hiring
