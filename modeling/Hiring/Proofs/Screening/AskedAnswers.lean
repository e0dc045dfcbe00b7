import Hiring.Proofs.Criterion.Retyping
import Hiring.Proofs.Screening.ScoreGate

/-!
# Only answers that are asked for count

A form can be sent with answers that the job never asked for, also under the label that is reserved
for the threshold of the score.  All answers go through retyping, and the row for the threshold
takes part in that, so that it has to be shown that such answers reach nothing.

* `Criterion.check?_congr`, `judge_congr` — a criterion looks at the answer under its label only.
* `get?_retype_congr` — so does retyping, label by label.
* `AgreeWhereAsked` — two submissions with the same answers to all that is asked.
* `Screener.unasked_answers_do_not_count` — **they get the same verdict**, word for word, and what
  is answered under the reserved label moves neither verdict nor threshold.
-/

set_option autoImplicit false

namespace Hiring

variable {a b : AnswerMap}

/-! ## What a criterion looks at -/

/-- A criterion looks at the answer under its label only. -/
theorem Criterion.check?_congr {c : Criterion} (h : a.get? c.label = b.get? c.label) :
    c.check? a = c.check? b := by
  simp only [check?, AnswerMap.present?, h]

theorem Criterion.violated_congr {c : Criterion} (h : a.get? c.label = b.get? c.label) :
    c.Violated a ↔ c.Violated b := by
  rw [← check?_isFailure, ← check?_isFailure, check?_congr h]

/-- Answers to the same questions are judged alike, reasons included. -/
theorem judge_congr {rules : List Criterion}
    (h : ∀ c ∈ rules, a.get? c.label = b.get? c.label) :
    judge rules (some a) = judge rules (some b) :=
  List.filterMap_congr fun c hc => Criterion.check?_congr (h c hc)

/-- What becomes of an answer depends on this answer only. -/
theorem get?_retype_congr {label : String} (criteria : List Criterion)
    (h : a.get? label = b.get? label) :
    (retype criteria a).get? label = (retype criteria b).get? label := by
  rw [get?_retype, get?_retype, h]

/-- The answers to all that the criteria ask are the same, or are missing in both. -/
def AgreeWhereAsked (criteria : List Criterion) (a b : AnswerMap) : Prop :=
  ∀ c ∈ criteria, c.label ≠ Criterion.scoreRowLabel → a.get? c.label = b.get? c.label

theorem AgreeWhereAsked.judge_eq {criteria : List Criterion} (h : AgreeWhereAsked criteria a b) :
    judge (answerRules criteria) (some a) = judge (answerRules criteria) (some b) :=
  judge_congr fun c hc => h c (mem_answerRules.1 hc).1 (mem_answerRules.1 hc).2

theorem AgreeWhereAsked.retype {criteria : List Criterion} (h : AgreeWhereAsked criteria a b) :
    AgreeWhereAsked criteria (retype criteria a) (retype criteria b) :=
  fun c hc hl => get?_retype_congr criteria (h c hc hl)

/-- An answer under the reserved label is asked for by no criterion. -/
theorem agreeWhereAsked_insert (criteria : List Criterion) (answers : AnswerMap) (x : Answer) :
    AgreeWhereAsked criteria (answers.insert Criterion.scoreRowLabel x) answers :=
  fun _ _ hl => answers.get?_insert_of_ne x hl

/-! ## Screening -/

namespace Screener

/-- The verdict is made of the score and of what the criteria have to say. -/
theorem evaluateWith_congr (s : Screener) {criteria : List Criterion} {x y : Option AnswerMap}
    (score : Option Binary64)
    (h : judge (answerRules criteria) x = judge (answerRules criteria) y) :
    s.evaluateWith criteria x score = s.evaluateWith criteria y score := by
  cases score with
  | none => simp only [evaluateWith, evaluate, h]
  | some score => simp only [evaluateWith, evaluateWithScore, h]

theorem screen_congr (s : Screener) {criteria : List Criterion} (score : Option Binary64)
    (h : AgreeWhereAsked criteria a b) :
    (s.screen criteria (some a) score).verdict = (s.screen criteria (some b) score).verdict :=
  s.evaluateWith_congr score h.retype.judge_eq

/-- **Answers that are not asked for do not count.**  Two submissions that agree on all that the
criteria ask, whatever else they hold, get the same verdict, and their retyped answers agree where
asked.  In particular there is one threshold that the score is compared with and one verdict,
whatever is answered under the label that is reserved for the threshold. -/
theorem unasked_answers_do_not_count (s : Screener) (criteria : List Criterion)
    (score : Option Binary64) :
    (∀ a b, AgreeWhereAsked criteria a b →
      (s.screen criteria (some a) score).verdict = (s.screen criteria (some b) score).verdict ∧
      ∃ p q, (s.screen criteria (some a) score).processed = some p ∧
        (s.screen criteria (some b) score).processed = some q ∧ AgreeWhereAsked criteria p q) ∧
    (∀ (answers : AnswerMap) (x : Answer),
      (s.screen criteria (some (answers.insert Criterion.scoreRowLabel x)) score).verdict =
        (s.screen criteria (some answers) score).verdict) ∧
    ∃ threshold, s.AppliesThreshold criteria threshold ∧
      ∀ (answers : AnswerMap) (x : Answer) (y : Binary64),
        (s.screen criteria (some (answers.insert Criterion.scoreRowLabel x)) (some y)).verdict.status
            = .tidakLolos ↔
          y < threshold ∨ ¬ AnswersPass criteria (some (retype criteria answers)) := by
  refine ⟨fun a b h => ⟨s.screen_congr score h, _, _, rfl, rfl, h.retype⟩,
    fun answers x => s.screen_congr score (agreeWhereAsked_insert criteria answers x),
    s.threshold criteria, s.appliesThreshold criteria, fun answers x y => ?_⟩
  rw [s.screen_congr _ (agreeWhereAsked_insert criteria answers x)]
  exact status_evaluateWithScore

/-- A degree that is asked for twice, and a row for the threshold that is retyped as a text. -/
def degreeTwice : List Criterion :=
  [⟨"gelar", .text, "S1, S2", true⟩, ⟨"ai_score_threshold", .text, "65", true⟩,
    ⟨"gelar", .number, "abc", false⟩]

/-- A submission that also says something about a hobby and about the threshold. -/
theorem unasked_answers_do_not_count_threshold :
    AgreeWhereAsked degreeTwice
      (.ofList [("gelar", .text " s1 "), ("hobi", .text "catur"),
        ("ai_score_threshold", .list [.text " 10 "])])
      (.ofList [("gelar", .text " s1 ")]) ∧
    (standard.screen degreeTwice (some (.ofList [("gelar", .text " s1 "), ("hobi", .text "catur"),
        ("ai_score_threshold", .list [.text " 10 "])])) (some (Binary64.ofInt 60))).verdict =
      (standard.screen degreeTwice (some (.ofList [("gelar", .text " s1 ")]))
        (some (Binary64.ofInt 60))).verdict ∧
    (standard.screen degreeTwice (some (.ofList [("gelar", .text " s1 ")]))
        (some (Binary64.ofInt 60))).verdict.log.failed =
      ["Skor AI (60) di bawah ambang batas (65)."] := by
  have hagree : AgreeWhereAsked degreeTwice
      (.ofList [("gelar", .text " s1 "), ("hobi", .text "catur"),
        ("ai_score_threshold", .list [.text " 10 "])])
      (.ofList [("gelar", .text " s1 ")]) := by
    intro c hc hl
    simp only [degreeTwice, List.mem_cons, List.not_mem_nil, or_false] at hc
    rcases hc with rfl | rfl | rfl
    · rfl
    · exact absurd rfl hl
    · rfl
  obtain ⟨hsame, -⟩ := unasked_answers_do_not_count standard degreeTwice (some (Binary64.ofInt 60))
  exact ⟨hagree, (hsame _ _ hagree).1, by decide +kernel⟩

end Screener

end Hiring
