import Hiring.Proofs.Office.Failures
import Hiring.Proofs.Office.Registers
import Hiring.Proofs.Office.Touches

/-!
# Screening again, once or often

Screening an application again writes to the record that it reads.  But what it writes is not what
the verdict depends on, and a stage that it has set is one that it would set again; so a second time
changes nothing.  Nor does it write anything that the screening of another application reads.  A
batch of rescreenings therefore does one thing to each record that is meant, however often, and it
does not matter in which order.

* `Office.refreshed` — a record after it was screened again.
* `Office.rescreened` — a storage in which some of the records are refreshed;
  `Office.rescreened_rescreened` puts two of them together.
* `Office.handle_rescreen`, `Office.rescreening_rescreened` — one request in these terms: what it
  leaves, and that its answer is the same before and after any others.
* `Office.rescreening_order_free` — **neither order nor repetition matters.**
-/

set_option autoImplicit false

namespace Hiring

namespace Office

variable (o : Office)

/-! ## One record -/

/-- The record after it was screened again. -/
def refreshed (s : Store) (a : Applicant) : Applicant :=
  match s.jobs.get? a.jobId with
  | some job => withVerdict a (o.verdictOn job a)
  | none => a

theorem withVerdict_withVerdict (a : Applicant) (v : Verdict) :
    withVerdict (withVerdict a v) v = withVerdict a v :=
  congrArg (fun stage => { withVerdict a v with stage }) (Stage.screened_screened v a.stage)

variable {o} {s : Store} {a : Applicant} {job : JobPosting}

theorem refreshed_of_listed (listed : s.jobs.get? a.jobId = some job) :
    o.refreshed s a = withVerdict a (o.verdictOn job a) := by
  rw [refreshed, listed]

theorem refreshed_sameForm : a.SameForm (o.refreshed s a) := by
  rw [refreshed]
  split
  · exact rfl
  · exact .refl a

@[simp] theorem refreshed_id : (o.refreshed s a).id = a.id := by
  rw [refreshed]
  split <;> rfl

@[simp] theorem refreshed_jobId : (o.refreshed s a).jobId = a.jobId := by
  rw [refreshed]
  split <;> rfl

/-- A record that was screened again stays as it is the next time. -/
theorem refreshed_refreshed : o.refreshed s (o.refreshed s a) = o.refreshed s a := by
  cases listed : s.jobs.get? a.jobId with
  | none =>
    have hsame : o.refreshed s a = a := by rw [refreshed, listed]
    rw [hsame, hsame]
  | some job =>
    have hlater : s.jobs.get? (o.refreshed s a).jobId = some job := by
      rw [refreshed_jobId, listed]
    rw [refreshed_of_listed hlater, verdictOn_of_sameForm refreshed_sameForm,
      refreshed_of_listed listed, withVerdict_withVerdict]

/-! ## Some of the records -/

/-- The storage in which the records with some identifiers were screened again. -/
def rescreened (o : Office) (ids : List ApplicantId) (s : Store) : Store :=
  { s with applicants := s.applicants.mapEntries fun id a =>
      if id ∈ ids then o.refreshed s a else a }

theorem get?_rescreened (ids : List ApplicantId) (id : ApplicantId) :
    (o.rescreened ids s).applicants.get? id =
      (s.applicants.get? id).map fun a => if id ∈ ids then o.refreshed s a else a :=
  Keyed.get?_mapEntries _ _ _

/-- What records are refreshed to does not depend on which of them were refreshed before. -/
theorem refreshed_rescreened (ids : List ApplicantId) :
    o.refreshed (o.rescreened ids s) a = o.refreshed s a := rfl

/-- Look-ups of applications are all there is to compare. -/
theorem rescreened_eq {ids : List ApplicantId} {s' : Store}
    (rest : s' = { s with applicants := s'.applicants })
    (h : ∀ id, (o.rescreened ids s).applicants.get? id = s'.applicants.get? id) :
    o.rescreened ids s = s' := by
  rw [rest, ← Keyed.ext_get? h]
  rfl

theorem rescreened_nil : o.rescreened [] s = s := by
  refine rescreened_eq rfl fun id => ?_
  rw [get?_rescreened]
  simp

/-- **Refreshing some records and then others refreshes them all.** -/
theorem rescreened_rescreened (ids more : List ApplicantId) :
    o.rescreened more (o.rescreened ids s) = o.rescreened (ids ++ more) s := by
  refine rescreened_eq rfl fun id => ?_
  rw [get?_rescreened, get?_rescreened, get?_rescreened, Option.map_map]
  refine congrArg (Option.map · (s.applicants.get? id)) (funext fun a => ?_)
  simp only [Function.comp_apply, refreshed_rescreened, List.mem_append]
  by_cases hids : id ∈ ids
  · by_cases hmore : id ∈ more
    · simp [hids, hmore, refreshed_refreshed]
    · simp [hids, hmore]
  · simp [hids]

/-- Which records are refreshed is all that counts. -/
theorem rescreened_congr {ids ids' : List ApplicantId} (h : ∀ id, id ∈ ids ↔ id ∈ ids') :
    o.rescreened ids s = o.rescreened ids' s := by
  rw [rescreened, rescreened]
  simp only [h]

/-! ## One request -/

/-- What comes of screening a record again. -/
def rescreeningOf (o : Office) (s : Store) (a : Applicant) : Except OfficeError Rescreening :=
  match s.jobs.get? a.jobId with
  | none => .error (.jobNotFound a.jobId)
  | some job => .ok ⟨withVerdict a (o.verdictOn job a), o.verdictOn job a⟩

/-- What comes of screening the application with an identifier again. -/
def rescreening (o : Office) (id : ApplicantId) (s : Store) : Except OfficeError Rescreening :=
  match s.applicants.get? id with
  | none => .error (.applicantNotFound id)
  | some a => o.rescreeningOf s a

theorem rescreened_of_unknown {id : ApplicantId} (unknown : s.applicants.get? id = none) :
    o.rescreened [id] s = s := by
  refine rescreened_eq rfl fun key => ?_
  rw [get?_rescreened]
  by_cases hkey : key = id
  · rw [hkey, unknown, Option.map_none]
  · simp [hkey]

theorem rescreened_of_stored (consistent : s.Consistent) {id : ApplicantId}
    (stored : s.applicants.get? id = some a) : o.rescreened [id] s = s.put (o.refreshed s a) := by
  have hid : (o.refreshed s a).id = id := by rw [refreshed_id, consistent.applicant_id stored]
  refine rescreened_eq rfl fun key => ?_
  rw [get?_rescreened, Store.put_applicants, Keyed.get?_insert, hid]
  by_cases hkey : key = id
  · simp [hkey, stored]
  · simp [hkey]

theorem consistent_rescreened (consistent : s.Consistent) (id : ApplicantId) :
    (o.rescreened [id] s).Consistent := by
  cases stored : s.applicants.get? id with
  | none =>
    rw [rescreened_of_unknown stored]
    exact consistent
  | some a =>
    obtain ⟨job, listed⟩ := consistent.job_stored stored
    have hlater : s.jobs.get? (o.refreshed s a).jobId = some job := by
      rw [refreshed_jobId, listed]
    rw [rescreened_of_stored consistent stored]
    exact consistent.put hlater

/-- **A request to screen an application again** refreshes the record, if there is one. -/
theorem handle_rescreen (consistent : s.Consistent) (time : Timestamp) (id : ApplicantId) :
    o.handle time (.rescreen id) s = (o.rescreening id s, o.rescreened [id] s) := by
  cases stored : s.applicants.get? id with
  | none =>
    rw [handle_of_unknown_applicant rfl stored, rescreened_of_unknown stored, rescreening, stored]
  | some a =>
    obtain ⟨job, listed⟩ := consistent.job_stored stored
    have hreturns : o.handle time (.rescreen id) s = _ := rescreen_returns consistent stored listed
    rw [hreturns, rescreened_of_stored consistent stored, refreshed_of_listed listed, rescreening,
      stored]
    simp only [rescreeningOf, listed]

/-- A record that was screened again comes out the same the next time. -/
theorem rescreeningOf_refreshed : o.rescreeningOf s (o.refreshed s a) = o.rescreeningOf s a := by
  rw [rescreeningOf, rescreeningOf, refreshed_jobId]
  cases listed : s.jobs.get? a.jobId with
  | none => rfl
  | some job =>
    simp only [verdictOn_of_sameForm refreshed_sameForm]
    rw [refreshed_of_listed listed, withVerdict_withVerdict]

/-- **The answer is the same, whichever records were refreshed before.** -/
theorem rescreening_rescreened (ids : List ApplicantId) (id : ApplicantId) :
    o.rescreening id (o.rescreened ids s) = o.rescreening id s := by
  rw [rescreening, rescreening, get?_rescreened]
  cases s.applicants.get? id with
  | none => rfl
  | some a =>
    by_cases hid : id ∈ ids
    · simp only [Option.map_some, if_pos hid]
      exact rescreeningOf_refreshed
    · simp only [Option.map_some, if_neg hid]
      rfl

/-- An application that is stored can be screened again. -/
theorem exists_rescreening (consistent : s.Consistent) {id : ApplicantId}
    (stored : s.applicants.get? id = some a) : ∃ result, o.rescreening id s = .ok result := by
  obtain ⟨job, listed⟩ := consistent.job_stored stored
  refine ⟨⟨withVerdict a (o.verdictOn job a), o.verdictOn job a⟩, ?_⟩
  rw [rescreening, stored]
  simp only [rescreeningOf, listed]

/-- A request to screen an application again, after another such request. -/
theorem handle_rescreen_rescreened (consistent : s.Consistent) (time : Timestamp)
    (id id' : ApplicantId) :
    o.handle time (.rescreen id') (o.rescreened [id] s) =
      (o.rescreening id' s, o.rescreened [id, id'] s) := by
  rw [handle_rescreen (consistent_rescreened consistent id), rescreening_rescreened,
    rescreened_rescreened]
  rfl

/-! ## Batches -/

/-- The requests to screen applications again, each at its time. -/
def rescreenings (batch : List (Timestamp × ApplicantId)) : List (Timestamp × Request) :=
  batch.map fun q => (q.1, .rescreen q.2)

/-- **A batch refreshes the records that are meant**, and each answer is the one that there would be
without the others. -/
theorem run_rescreenings (consistent : s.Consistent) (batch : List (Timestamp × ApplicantId)) :
    o.run (rescreenings batch) s = o.rescreened (batch.map (·.2)) s ∧
      o.answers (rescreenings batch) s =
        batch.map fun q => ⟨.rescreen q.2, o.rescreening q.2 s⟩ := by
  induction batch generalizing s with
  | nil => exact ⟨rescreened_nil.symm, rfl⟩
  | cons q rest ih =>
    have hfirst := handle_rescreen (o := o) consistent q.1 q.2
    obtain ⟨hrun, hanswers⟩ := ih (consistent_rescreened consistent q.2)
    constructor
    · show o.run (rescreenings rest) (o.handle q.1 (.rescreen q.2) s).2 = _
      rw [hfirst, hrun, rescreened_rescreened]
      rfl
    · show ⟨.rescreen q.2, (o.handle q.1 (.rescreen q.2) s).1⟩ ::
        o.answers (rescreenings rest) (o.handle q.1 (.rescreen q.2) s).2 = _
      rw [hfirst, hanswers]
      simp only [rescreening_rescreened, List.map_cons]

/-- **Neither order nor repetition matters.**  In every storage that requests lead to, screening an
application again and then once more gives the same answer twice, and leaves what the first time
left; screening two applications again, which may be the same, gives the same answers in either
order and leaves the same; and batches that name the same applications leave the same storage, in
any order, with any repetitions and at any times, and each of their answers is the one that there
would be without the others. -/
theorem rescreening_order_free (o : Office) (s : Store) (reached : o.Reachable s) :
    (∀ time later id a, s.applicants.get? id = some a → ∃ result after,
      o.handle time (.rescreen id) s = (.ok result, after) ∧
      o.handle later (.rescreen id) after = (.ok result, after)) ∧
    (∀ time later time' later' id id' a b,
      s.applicants.get? id = some a → s.applicants.get? id' = some b →
      ∃ result result' between between' after,
        o.handle time (.rescreen id) s = (.ok result, between) ∧
        o.handle later (.rescreen id') between = (.ok result', after) ∧
        o.handle time' (.rescreen id') s = (.ok result', between') ∧
        o.handle later' (.rescreen id) between' = (.ok result, after)) ∧
    (∀ batch batch' : List (Timestamp × ApplicantId),
      (∀ id, id ∈ batch.map (·.2) ↔ id ∈ batch'.map (·.2)) →
      o.run (rescreenings batch) s = o.run (rescreenings batch') s) ∧
    ∀ batch : List (Timestamp × ApplicantId), o.answers (rescreenings batch) s =
      batch.map fun q => ⟨.rescreen q.2, (o.handle q.1 (.rescreen q.2) s).1⟩ := by
  have consistent : s.Consistent := reached.consistent
  refine ⟨fun time later id a stored => ?_,
    fun time later time' later' id id' a b stored stored' => ?_,
    fun batch batch' same => ?_, fun batch => ?_⟩
  · obtain ⟨result, hresult⟩ := exists_rescreening (o := o) consistent stored
    have htwice : o.rescreened [id, id] s = o.rescreened [id] s :=
      rescreened_congr fun other => by simp
    refine ⟨result, o.rescreened [id] s, ?_, ?_⟩
    · rw [handle_rescreen consistent, hresult]
    · rw [handle_rescreen_rescreened consistent, hresult, htwice]
  · obtain ⟨result, hresult⟩ := exists_rescreening (o := o) consistent stored
    obtain ⟨result', hresult'⟩ := exists_rescreening (o := o) consistent stored'
    have hswap : o.rescreened [id', id] s = o.rescreened [id, id'] s :=
      rescreened_congr fun other => by simp [or_comm]
    refine ⟨result, result', o.rescreened [id] s, o.rescreened [id'] s, o.rescreened [id, id'] s,
      ?_, ?_, ?_, ?_⟩
    · rw [handle_rescreen consistent, hresult]
    · rw [handle_rescreen_rescreened consistent, hresult']
    · rw [handle_rescreen consistent, hresult']
    · rw [handle_rescreen_rescreened consistent, hresult, hswap]
  · rw [(run_rescreenings consistent batch).1, (run_rescreenings consistent batch').1]
    exact rescreened_congr same
  · rw [(run_rescreenings consistent batch).2]
    simp only [handle_rescreen consistent]

/-- Two applications have come in, and the first was rejected by screening and hired by hand. -/
def hiredByHand : Store :=
  run ⟨Screener.standard⟩
    [(⟨2024, 5, 1, 8, 0, 0, 0⟩,
        .createJob ⟨"Staf", "", "", "", [⟨"gelar", .text, "S1, S2", true⟩]⟩),
      (⟨2024, 5, 2, 8, 0, 0, 0⟩, .apply ⟨"job-000001", "Ani", "ani@example.id", none, none, [],
        some (.object [("gelar", .string "S3")]), none⟩),
      (⟨2024, 5, 3, 8, 0, 0, 0⟩, .apply ⟨"job-000001", "Budi", "budi@example.id", none, none, [],
        some (.object [("gelar", .string "s2")]), none⟩),
      (⟨2024, 5, 4, 8, 0, 0, 0⟩, .moveTo "applicant-000001" .hired)]
    (.emptyAt 1 1)

/-- The application past screening is screened again before the other one, after it, and twice. -/
theorem rescreening_order_free_hired :
    (hiredByHand.applicants.get? "applicant-000001").map (·.stage) = some .hired ∧
    (∃ result after,
      handle ⟨Screener.standard⟩ ⟨2024, 5, 5, 8, 0, 0, 0⟩ (.rescreen "applicant-000001")
        hiredByHand = (.ok result, after) ∧
      handle ⟨Screener.standard⟩ ⟨2024, 5, 6, 8, 0, 0, 0⟩ (.rescreen "applicant-000001")
        after = (.ok result, after)) ∧
    run ⟨Screener.standard⟩ (rescreenings [(⟨2024, 5, 5, 8, 0, 0, 0⟩, "applicant-000001"),
        (⟨2024, 5, 6, 8, 0, 0, 0⟩, "applicant-000002"),
        (⟨2024, 5, 7, 8, 0, 0, 0⟩, "applicant-000001")]) hiredByHand =
      run ⟨Screener.standard⟩ (rescreenings [(⟨2024, 5, 5, 8, 0, 0, 0⟩, "applicant-000002"),
        (⟨2024, 5, 5, 8, 0, 0, 0⟩, "applicant-000001")]) hiredByHand := by
  obtain ⟨htwice, -, hbatch, -⟩ :=
    rescreening_order_free ⟨Screener.standard⟩ hiredByHand ⟨_, 1, 1, rfl⟩
  have hstored : (hiredByHand.applicants.get? "applicant-000001").isSome = true := by
    decide +kernel
  obtain ⟨a, ha⟩ := Option.isSome_iff_exists.1 hstored
  refine ⟨by decide +kernel, htwice _ _ _ a ha, hbatch _ _ fun id => ?_⟩
  simp only [List.map_cons, List.map_nil, List.mem_cons, List.not_mem_nil]
  grind

end Office

end Hiring
