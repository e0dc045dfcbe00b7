import Hiring.Proofs.Screening.ScoreGate

/-!
# A score in front of the answers

Evaluating answers with a score and evaluating them alone are two functions that repeat each
other.  They also differ: alone, answers are not looked at when no criterion judges them, and with
a score they are.

* `Screener.log_scoreOutcomes` — what a score alone puts on the log.
* `judge_answerRules_of_score_rows` — criteria that judge nothing have something to say only about
  answers that are missing as a whole.
* `Screener.score_layer` — **a score adds its entries in front and changes nothing else**, unless no
  criterion judges answers.
-/

set_option autoImplicit false

namespace Hiring

/-! ## The two parts of the log -/

theorem answerRules_eq_nil_iff {criteria : List Criterion} :
    answerRules criteria = [] ↔ ∀ c ∈ criteria, c.label = Criterion.scoreRowLabel := by
  rw [List.eq_nil_iff_forall_not_mem]
  simp only [mem_answerRules, not_and, Classical.not_not]

/-- Where a criterion judges answers, evaluating them is judging them. -/
theorem evaluate_of_exists {criteria : List Criterion} (answers : Option AnswerMap)
    (h : ∃ c ∈ criteria, c.label ≠ Criterion.scoreRowLabel) :
    evaluate criteria answers = .ofOutcomes (judge (answerRules criteria) answers) := by
  have hrules : ¬ (answerRules criteria).isEmpty = true := by
    rw [List.isEmpty_iff, answerRules_eq_nil_iff]
    obtain ⟨c, hc, hl⟩ := h
    exact fun hall => hl (hall c hc)
  rw [evaluate]
  simp only [if_neg hrules]

theorem evaluate_of_forall {criteria : List Criterion} (answers : Option AnswerMap)
    (h : ∀ c ∈ criteria, c.label = Criterion.scoreRowLabel) :
    evaluate criteria answers = .ofOutcomes [noCriteria] := by
  rw [evaluate, answerRules_eq_nil_iff.2 h]
  rfl

/-- Criteria that judge no answers have something to say only if there are none at all. -/
theorem judge_answerRules_of_score_rows {criteria : List Criterion} (answers : Option AnswerMap)
    (h : ∀ c ∈ criteria, c.label = Criterion.scoreRowLabel) :
    judge (answerRules criteria) answers = if answers.isNone then [invalidAnswers] else [] := by
  rw [answerRules_eq_nil_iff.2 h]
  cases answers <;> rfl

namespace Screener

/-- A score notes itself, and that it is too small if it is. -/
theorem log_scoreOutcomes (score threshold : Binary64) :
    Log.ofOutcomes (scoreOutcomes score threshold) =
      ⟨["Skor AI berhasil dihitung: " ++ score.text],
        if score < threshold then
          ["Skor AI (" ++ score.text ++ ") di bawah ambang batas (" ++ threshold.text ++ ")."]
        else [], []⟩ := by
  rw [Log.ofOutcomes_eq, scoreOutcomes]
  split <;> rfl

theorem status_scoreOutcomes (score threshold : Binary64) :
    (Verdict.ofOutcomes (scoreOutcomes score threshold)).status = .tidakLolos ↔
      score < threshold := by
  rw [Verdict.status_ofOutcomes, exists_failure_scoreOutcomes]

/-- The log of a screening with a score is that of the score and behind it that of the answers. -/
theorem log_evaluateWithScore (s : Screener) (criteria : List Criterion)
    (answers : Option AnswerMap) (score : Binary64) :
    (s.evaluateWithScore criteria answers score).log =
      (Log.ofOutcomes (scoreOutcomes score (s.threshold criteria))).append
        (Log.ofOutcomes (judge (answerRules criteria) answers)) :=
  Log.ofOutcomes_append _ _

/-! ## The layer -/

/-- A text that begins in another way is not the note that there are no criteria. -/
theorem reason_noCriteria_ne {front rest : String} (h : front.toList.head? = some 'S') :
    noCriteria.reason ≠ front ++ rest := by
  intro he
  have hhead := congrArg (fun text => text.toList.head?) he
  simp only [String.toList_append, List.head?_append, h] at hhead
  cases hhead

/-- **A score is a layer over the evaluation of answers.**  Where a criterion judges answers, the
log is that of the answers alone with the note on the score in front of the passes and, if the
score is too small, the note on this in front of the failures; the status rejects if the score is
too small or the answers alone reject.  Where no criterion does, the log holds the notes on the
score and a failure if there are no answers, but not the note of the answers alone that there are no
criteria. -/
theorem score_layer (s : Screener) (criteria : List Criterion) (answers : Option AnswerMap)
    (score : Binary64) :
    ((∃ c ∈ criteria, c.label ≠ Criterion.scoreRowLabel) →
      (s.evaluateWithScore criteria answers score).log =
        ⟨("Skor AI berhasil dihitung: " ++ score.text) :: (evaluate criteria answers).log.passed,
          (if score < s.threshold criteria then
            ["Skor AI (" ++ score.text ++ ") di bawah ambang batas (" ++
              (s.threshold criteria).text ++ ")."]
          else []) ++ (evaluate criteria answers).log.failed,
          (evaluate criteria answers).log.review⟩ ∧
      ((s.evaluateWithScore criteria answers score).status = .tidakLolos ↔
        score < s.threshold criteria ∨ (evaluate criteria answers).status = .tidakLolos)) ∧
    ((∀ c ∈ criteria, c.label = Criterion.scoreRowLabel) →
      (s.evaluateWithScore criteria answers score).log =
        ⟨["Skor AI berhasil dihitung: " ++ score.text],
          (if score < s.threshold criteria then
            ["Skor AI (" ++ score.text ++ ") di bawah ambang batas (" ++
              (s.threshold criteria).text ++ ")."]
          else []) ++ (if answers.isNone then ["Data jawaban tidak valid."] else []), []⟩ ∧
      (evaluate criteria answers).log = ⟨["Tidak ada kriteria untuk dicek."], [], []⟩ ∧
      "Tidak ada kriteria untuk dicek." ∉
        (s.evaluateWithScore criteria answers score).log.passed ++
          (s.evaluateWithScore criteria answers score).log.failed ++
          (s.evaluateWithScore criteria answers score).log.review) := by
  refine ⟨fun hjudging => ⟨?_, ?_⟩, fun hscore => ?_⟩
  · rw [log_evaluateWithScore, log_scoreOutcomes, evaluate_of_exists answers hjudging]
    rfl
  · rw [evaluateWithScore, Verdict.status_ofOutcomes_append, status_scoreOutcomes,
      evaluate_of_exists answers hjudging]
  · have hlog : (s.evaluateWithScore criteria answers score).log =
        ⟨["Skor AI berhasil dihitung: " ++ score.text],
          (if score < s.threshold criteria then
            ["Skor AI (" ++ score.text ++ ") di bawah ambang batas (" ++
              (s.threshold criteria).text ++ ")."]
          else []) ++ (if answers.isNone then ["Data jawaban tidak valid."] else []), []⟩ := by
      rw [log_evaluateWithScore, log_scoreOutcomes, judge_answerRules_of_score_rows answers hscore]
      cases answers <;> simp [Log.append, Log.ofOutcomes_eq, invalidAnswers,
        Outcome.passedReason?, Outcome.failedReason?, Outcome.reviewReason?]
    refine ⟨hlog, ?_, ?_⟩
    · rw [evaluate_of_forall answers hscore]
      rfl
    · have hnote : ("Tidak ada kriteria untuk dicek." : String) ≠
          "Skor AI berhasil dihitung: " ++ score.text := reason_noCriteria_ne rfl
      have hbelow : ("Tidak ada kriteria untuk dicek." : String) ≠
          "Skor AI (" ++ score.text ++ ") di bawah ambang batas (" ++
            (s.threshold criteria).text ++ ")." := by
        simp only [String.append_assoc]
        exact reason_noCriteria_ne rfl
      have hinvalid :
          ("Tidak ada kriteria untuk dicek." : String) ≠ "Data jawaban tidak valid." := by
        decide
      rw [hlog]
      split <;> split <;> simp [hnote, hbelow, hinvalid]

/-- A score below the threshold of its row, in front of an answer that is not on the list, and
alone where the row is all there is. -/
theorem score_layer_below :
    (∃ c ∈ [(⟨"ai_score_threshold", .number, "65", false⟩ : Criterion),
        ⟨"gelar", .text, "S1, S2", true⟩], c.label ≠ Criterion.scoreRowLabel) ∧
    (standard.evaluateWithScore [⟨"ai_score_threshold", .number, "65", false⟩,
        ⟨"gelar", .text, "S1, S2", true⟩] (some (.ofList [("gelar", .text "S3")]))
        (Binary64.ofInt 60)).log.failed =
      "Skor AI (60) di bawah ambang batas (65)." ::
        (evaluate [⟨"ai_score_threshold", .number, "65", false⟩,
          ⟨"gelar", .text, "S1, S2", true⟩] (some (.ofList [("gelar", .text "S3")]))).log.failed ∧
    (standard.evaluateWithScore [⟨"ai_score_threshold", .number, "65", false⟩] none
        (Binary64.ofInt 60)).log =
      ⟨["Skor AI berhasil dihitung: 60"],
        ["Skor AI (60) di bawah ambang batas (65).", "Data jawaban tidak valid."], []⟩ := by
  have hjudging : ∃ c ∈ [(⟨"ai_score_threshold", .number, "65", false⟩ : Criterion),
      ⟨"gelar", .text, "S1, S2", true⟩], c.label ≠ Criterion.scoreRowLabel :=
    ⟨_, .tail _ (.head _), by decide⟩
  have hlog := ((score_layer standard _ (some (.ofList [("gelar", .text "S3")]))
    (Binary64.ofInt 60)).1 hjudging).1
  have hrow := ((score_layer standard [⟨"ai_score_threshold", .number, "65", false⟩] none
    (Binary64.ofInt 60)).2 (by simp [Criterion.scoreRowLabel])).1
  refine ⟨hjudging, ?_, ?_⟩
  · rw [hlog]
    decide +kernel
  · rw [hrow]
    decide +kernel

end Screener

end Hiring
