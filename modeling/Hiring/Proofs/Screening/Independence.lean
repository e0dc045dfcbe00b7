import Hiring.Proofs.Screening.AskedAnswers
import Hiring.Proofs.Screening.RetypedAnswers
import Hiring.Proofs.Screening.ScoreLayer

/-!
# Criteria are judged independently of each other

What a criterion has to say does not depend on the criteria around it.  For evaluation that is a
law about lists: criteria are filtered, passed over and filed into three buckets, and each of these
steps respects the order.  Screening retypes all answers first, for all criteria at once, and so
the law needs that no criterion's retyping reaches the answer to another one; that is so as long as
no two criteria have one label.

* `Log.Reordered`, `Verdict.ofOutcomes_perm` — outcomes in another order.
* `JudgedIndependently` — the laws of independence, for a way to come from criteria to a verdict.
* `Screener.screen_verdict_eq_evaluate` — screening by some of the criteria is evaluating the
  answers that all of them have retyped.
* `Screener.judged_independently` — **evaluation obeys the laws, and so does screening** if no two
  criteria have one label.
-/

set_option autoImplicit false

namespace Hiring

/-! ## Outcomes in another order -/

/-- The buckets hold the same reasons as those of another log, if perhaps in another order. -/
structure Log.Reordered (a b : Log) : Prop where
  passed : a.passed.Perm b.passed
  failed : a.failed.Perm b.failed
  review : a.review.Perm b.review

theorem Verdict.ofOutcomes_perm {xs ys : List Outcome} (h : xs.Perm ys) :
    (ofOutcomes xs).status = (ofOutcomes ys).status ∧
      (ofOutcomes xs).log.Reordered (ofOutcomes ys).log := by
  have hlog (zs : List Outcome) : (ofOutcomes zs).log = Log.ofOutcomes zs := rfl
  constructor
  · rw [status_eq_iff, status_ofOutcomes, status_ofOutcomes]
    simp only [h.mem_iff]
  · rw [hlog, hlog, Log.ofOutcomes_eq, Log.ofOutcomes_eq]
    exact ⟨h.filterMap _, h.filterMap _, h.filterMap _⟩

/-! ## The laws -/

/-- Some criterion judges answers. -/
def JudgesAnswers (criteria : List Criterion) : Prop :=
  ∃ c ∈ criteria, c.label ≠ Criterion.scoreRowLabel

theorem JudgesAnswers.mono {c₁ c₂ : List Criterion} (h : JudgesAnswers c₁) (sub : c₁ ⊆ c₂) :
    JudgesAnswers c₂ := by
  obtain ⟨c, hc, hl⟩ := h
  exact ⟨c, sub hc, hl⟩

/-- Criteria are judged independently of each other: by a way to come from the criteria, with fixed
answers, to a verdict, as long as the criteria are allowed. -/
structure JudgedIndependently (allowed : List Criterion → Prop) (answers : AnswerMap)
    (verdict : List Criterion → Verdict) : Prop where
  /-- The log of two lists is that of the first with that of the second behind it, and both have
  to be passed. -/
  append : ∀ c₁ c₂, allowed (c₁ ++ c₂) → JudgesAnswers c₁ → JudgesAnswers c₂ →
    (verdict (c₁ ++ c₂)).log = (verdict c₁).log.append (verdict c₂).log ∧
      ((verdict (c₁ ++ c₂)).status = .lolos ↔
        (verdict c₁).status = .lolos ∧ (verdict c₂).status = .lolos)
  /-- The order of the criteria is the order inside the buckets and nothing else. -/
  reorder : ∀ c₁ c₂, allowed c₁ → c₁.Perm c₂ →
    (verdict c₁).status = (verdict c₂).status ∧ (verdict c₁).log.Reordered (verdict c₂).log
  /-- One more criterion adds what it says alone, and leaves the entries of the others as they
  are. -/
  insert : ∀ before c after, allowed (before ++ c :: after) → c.label ≠ Criterion.scoreRowLabel →
    JudgesAnswers (before ++ after) →
    ∃ first second : Log, (verdict (before ++ after)).log = first.append second ∧
      (verdict (before ++ c :: after)).log = (first.append (verdict [c]).log).append second
  /-- All that a rule that cannot be read says about an answer is one note for a person. -/
  malformed : ∀ c a e, allowed [c] → c.label ≠ Criterion.scoreRowLabel → c.kind = .number →
    NumericRule.parse c.rule = .error e → AnswerMap.Given answers c.label a →
    ∃ note, (verdict [c]).log = ⟨[], [], [note]⟩

/-! ## Evaluation -/

/-- What some criteria have to say about answers. -/
def outcomes (answers : AnswerMap) (criteria : List Criterion) : List Outcome :=
  judge (answerRules criteria) (some answers)

theorem outcomes_append (answers : AnswerMap) (c₁ c₂ : List Criterion) :
    outcomes answers (c₁ ++ c₂) = outcomes answers c₁ ++ outcomes answers c₂ := by
  rw [outcomes, answerRules, List.filter_append]
  exact checkAll_append _ _ _

/-- Where a criterion judges answers, the verdict is that on what the criteria have to say. -/
theorem evaluate_eq_outcomes {criteria : List Criterion} (answers : AnswerMap)
    (h : JudgesAnswers criteria) :
    evaluate criteria (some answers) = .ofOutcomes (outcomes answers criteria) :=
  evaluate_of_exists _ h

theorem evaluate_append {c₁ c₂ : List Criterion} (answers : AnswerMap) (h₁ : JudgesAnswers c₁)
    (h₂ : JudgesAnswers c₂) :
    (evaluate (c₁ ++ c₂) (some answers)).log =
        (evaluate c₁ (some answers)).log.append (evaluate c₂ (some answers)).log ∧
      ((evaluate (c₁ ++ c₂) (some answers)).status = .lolos ↔
        (evaluate c₁ (some answers)).status = .lolos ∧
          (evaluate c₂ (some answers)).status = .lolos) := by
  rw [evaluate_eq_outcomes answers (h₁.mono (List.subset_append_left c₁ c₂)),
    evaluate_eq_outcomes answers h₁, evaluate_eq_outcomes answers h₂, outcomes_append]
  exact ⟨Log.ofOutcomes_append _ _, Verdict.lolos_ofOutcomes_append _ _⟩

theorem evaluate_perm {c₁ c₂ : List Criterion} (answers : AnswerMap) (h : c₁.Perm c₂) :
    (evaluate c₁ (some answers)).status = (evaluate c₂ (some answers)).status ∧
      (evaluate c₁ (some answers)).log.Reordered (evaluate c₂ (some answers)).log := by
  by_cases hjudging : JudgesAnswers c₁
  · rw [evaluate_eq_outcomes answers hjudging,
      evaluate_eq_outcomes answers (hjudging.mono h.subset)]
    exact Verdict.ofOutcomes_perm ((h.filter _).filterMap _)
  · have hrows : ∀ c ∈ c₁, c.label = Criterion.scoreRowLabel := by
      simpa [JudgesAnswers] using hjudging
    rw [evaluate_of_forall _ hrows, evaluate_of_forall _ fun c hc => hrows c (h.mem_iff.2 hc)]
    exact ⟨rfl, .refl _, .refl _, .refl _⟩

/-- One more criterion puts its own outcome between those of the others. -/
theorem evaluate_insert {before after : List Criterion} {c : Criterion} (answers : AnswerMap)
    (hl : c.label ≠ Criterion.scoreRowLabel) (hothers : JudgesAnswers (before ++ after)) :
    ∃ first second : Log,
      (evaluate (before ++ after) (some answers)).log = first.append second ∧
      (evaluate (before ++ c :: after) (some answers)).log =
        (first.append (evaluate [c] (some answers)).log).append second := by
  have halone : JudgesAnswers [c] := ⟨c, .head _, hl⟩
  have hall : JudgesAnswers (before ++ [c] ++ after) :=
    halone.mono fun d hd => List.mem_append_left _ (List.mem_append_right _ hd)
  refine ⟨.ofOutcomes (outcomes answers before), .ofOutcomes (outcomes answers after), ?_, ?_⟩
  · rw [evaluate_eq_outcomes answers hothers, outcomes_append]
    exact Log.ofOutcomes_append _ _
  · rw [List.append_cons, evaluate_eq_outcomes answers hall, evaluate_eq_outcomes answers halone,
      outcomes_append, outcomes_append]
    simp only [Verdict.ofOutcomes, Log.ofOutcomes_append]

/-- A rule that cannot be read leaves an answer to a person. -/
theorem Criterion.checkAnswer_of_malformed {c : Criterion} (a : Answer)
    {e : NumericRule.ParseError} (hk : c.kind = .number)
    (he : NumericRule.parse c.rule = .error e) :
    ∃ note, c.checkAnswer a = .needsReview note := by
  unfold checkAnswer checkNumber
  rw [hk, he]
  split
  · exact ⟨_, rfl⟩
  · cases a.number? with
    | none => exact ⟨_, rfl⟩
    | some value => exact ⟨_, rfl⟩

theorem evaluate_of_malformed {c : Criterion} {answers : AnswerMap} {a : Answer}
    {e : NumericRule.ParseError} (hl : c.label ≠ Criterion.scoreRowLabel) (hk : c.kind = .number)
    (he : NumericRule.parse c.rule = .error e) (ha : AnswerMap.Given answers c.label a) :
    ∃ note, (evaluate [c] (some answers)).log = ⟨[], [], [note]⟩ := by
  obtain ⟨note, hnote⟩ := c.checkAnswer_of_malformed a hk he
  have hcheck : c.check? answers = some (.needsReview note) := by
    rw [Criterion.check?, AnswerMap.present?_eq_some.2 ha, ← hnote]
  have hrules : answerRules [c] = [c] := by simp [answerRules, Criterion.isScoreRow, hl]
  refine ⟨note, ?_⟩
  rw [evaluate_eq_outcomes answers ⟨c, .head _, hl⟩, outcomes, hrules, judge, checkAll,
    List.filterMap_cons_some hcheck]
  rfl

/-! ## Screening -/

namespace Screener

/-- **Screening by some of the criteria is evaluating the answers that all of them have retyped**,
if no two have one label. -/
theorem screen_verdict_eq_evaluate (s : Screener) {part criteria : List Criterion}
    (answers : AnswerMap) (distinct : (criteria.map (·.label)).Nodup)
    (distinct' : (part.map (·.label)).Nodup) (sub : part ⊆ criteria) :
    (s.screen part (some answers) none).verdict =
      evaluate part (some (retype criteria answers)) := by
  refine s.evaluateWith_congr none (judge_congr fun c hc => ?_)
  have hmem : c ∈ part := (mem_answerRules.1 hc).1
  rw [get?_retype_of_mem distinct' hmem, get?_retype_of_mem distinct (sub hmem)]

theorem screen_verdict_of_sublist (s : Screener) {part criteria : List Criterion}
    (answers : AnswerMap) (distinct : (criteria.map (·.label)).Nodup)
    (sub : part.Sublist criteria) :
    (s.screen part (some answers) none).verdict =
      evaluate part (some (retype criteria answers)) :=
  s.screen_verdict_eq_evaluate answers distinct (distinct.sublist (sub.map _)) sub.subset

/-- **Screening judges each criterion by itself**, if no two have one label. -/
theorem screen_judgedIndependently (s : Screener) (answers : AnswerMap) :
    JudgedIndependently (fun criteria => (criteria.map (·.label)).Nodup) answers
      (fun criteria => (s.screen criteria (some answers) none).verdict) where
  append := by
    intro c₁ c₂ distinct h₁ h₂
    rw [s.screen_verdict_of_sublist answers distinct (.refl _),
      s.screen_verdict_of_sublist answers distinct (List.sublist_append_left c₁ c₂),
      s.screen_verdict_of_sublist answers distinct (List.sublist_append_right c₁ c₂)]
    exact evaluate_append _ h₁ h₂
  reorder := by
    intro c₁ c₂ distinct h
    rw [s.screen_verdict_of_sublist answers distinct (.refl _),
      s.screen_verdict_eq_evaluate answers distinct ((h.map _).nodup_iff.1 distinct)
        h.symm.subset]
    exact evaluate_perm _ h
  insert := by
    intro before c after distinct hl hothers
    have hsub : (before ++ after).Sublist (before ++ c :: after) :=
      (List.Sublist.refl before).append (List.sublist_cons_self c after)
    have halone : [c].Sublist (before ++ c :: after) :=
      List.singleton_sublist.2 (List.mem_append_right _ (.head _))
    rw [s.screen_verdict_of_sublist answers distinct (.refl _),
      s.screen_verdict_of_sublist answers distinct hsub,
      s.screen_verdict_of_sublist answers distinct halone]
    exact evaluate_insert _ hl hothers
  malformed := by
    intro c a e distinct hl hk he ha
    have hblank : ¬ a.isBlank = true := by
      rw [AnswerMap.isBlank_iff, not_or]
      exact ha.2
    have hkept := (Criterion.checkAnswer_retyped (c := c) hblank fun h => by simp [hk] at h).1
    rw [s.screen_verdict_of_sublist answers distinct (.refl _)]
    exact evaluate_of_malformed hl hk he (given_retype distinct (.head _) ha hkept)

/-- **Criteria are judged independently of each other.**  Put together, two lists of criteria give
their two logs one behind the other, bucket by bucket, and both have to be passed; another order
of the criteria changes the order inside the buckets and nothing else; and one more criterion,
whether its rule can be read or not, adds its own entry and leaves those of the others alone.  All
this holds of evaluation for all criteria, and of screening for criteria of which no two have one
label. -/
theorem judged_independently (s : Screener) (answers : AnswerMap) :
    JudgedIndependently (fun _ => True) answers (fun criteria => evaluate criteria (some answers)) ∧
    JudgedIndependently (fun criteria => (criteria.map (·.label)).Nodup) answers
      (fun criteria => (s.screen criteria (some answers) none).verdict) :=
  ⟨⟨fun _ _ _ => evaluate_append answers, fun _ _ _ => evaluate_perm answers,
    fun _ _ _ _ => evaluate_insert answers, fun _ _ _ _ => evaluate_of_malformed⟩,
    s.screen_judgedIndependently answers⟩

/-- A grade with a rule that cannot be read, a degree and an age. -/
def gradeDegreeAge : List Criterion :=
  [⟨"ipk", .number, "banyak", true⟩, ⟨"gelar", .text, "S1, S2", true⟩,
    ⟨"usia", .number, "max 30", true⟩]

/-- A degree that is not on the list, beside a grade and an age. -/
def doctorAnswers : AnswerMap :=
  .ofList [("gelar", .text "S3"), ("ipk", .text "3.9"), ("usia", .text "25")]

/-- In front of the other two, a grade that nobody can judge adds its note and nothing else, and
the degree is rejected as it is without the grade. -/
theorem judged_independently_unreadable :
    (gradeDegreeAge.map (·.label)).Nodup ∧
    (∃ note, (standard.screen [⟨"ipk", .number, "banyak", true⟩] (some doctorAnswers)
      none).verdict.log = ⟨[], [], [note]⟩) ∧
    (standard.screen gradeDegreeAge (some doctorAnswers) none).verdict.log =
      (standard.screen [⟨"ipk", .number, "banyak", true⟩] (some doctorAnswers)
        none).verdict.log.append
      (standard.screen [⟨"gelar", .text, "S1, S2", true⟩, ⟨"usia", .number, "max 30", true⟩]
        (some doctorAnswers) none).verdict.log ∧
    ¬ (standard.screen gradeDegreeAge (some doctorAnswers) none).verdict.status = .lolos := by
  have hdistinct : (gradeDegreeAge.map (·.label)).Nodup := by decide
  obtain ⟨-, hscreen⟩ := judged_independently standard doctorAnswers
  obtain ⟨hlog, hstatus⟩ := hscreen.append [⟨"ipk", .number, "banyak", true⟩]
    [⟨"gelar", .text, "S1, S2", true⟩, ⟨"usia", .number, "max 30", true⟩] hdistinct
    ⟨_, .head _, by decide⟩ ⟨_, .head _, by decide⟩
  have hrest : ¬ (standard.screen [⟨"gelar", .text, "S1, S2", true⟩,
      ⟨"usia", .number, "max 30", true⟩] (some doctorAnswers) none).verdict.status = .lolos := by
    decide +kernel
  refine ⟨hdistinct, ?_, hlog, fun hall => hrest (hstatus.1 hall).2⟩
  exact hscreen.malformed ⟨"ipk", .number, "banyak", true⟩ (.text "3.9") ⟨"banyak"⟩
    (by decide) (by decide) rfl rfl ⟨rfl, by simp, by simp⟩

end Screener

end Hiring
