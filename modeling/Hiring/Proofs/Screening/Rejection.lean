import Hiring.Proofs.Verdict.Buckets
import Hiring.Screening.Evaluation

/-!
# When answers are rejected

`evaluate` filters the criteria, looks each answer up, hands it to one of two checks and sorts
the outcomes.  This file says in one sentence what comes of it.

* `AnswerMap.Missing`, `AnswerMap.Given` — nothing, or something, was entered under a label.
* `Criterion.Violated` — the three ways in which answers can fall short of a criterion.
* `Criterion.Undecided` — the ways in which a criterion says nothing about the answers.
* `AnswersPass` — there are answers, and none of the criteria is violated.
* `evaluate_status_iff` — **the meaning of a rejection**: some criterion judges answers, and
  there are no answers at all or they violate it; and a criterion that is undecided changes
  nothing, wherever it stands.
-/

set_option autoImplicit false

namespace Hiring

/-! ## What was entered -/

namespace AnswerMap

/-- Nothing was entered under the label: no answer, no value, or the empty text. -/
def Missing (answers : AnswerMap) (label : String) : Prop :=
  answers.get? label = none ∨ answers.get? label = some .null ∨
    answers.get? label = some (.text "")

/-- The answer was entered under the label. -/
def Given (answers : AnswerMap) (label : String) (a : Answer) : Prop :=
  answers.get? label = some a ∧ a ≠ .null ∧ a ≠ .text ""

theorem isBlank_iff {a : Answer} : a.isBlank = true ↔ a = .null ∨ a = .text "" := by
  cases a <;> simp [Answer.isBlank]

theorem present?_eq_none {answers : AnswerMap} {label : String} :
    present? answers label = none ↔ Missing answers label := by
  rw [present?, Missing]
  cases answers.get? label with
  | none => simp
  | some a => simp [isBlank_iff]

theorem present?_eq_some {answers : AnswerMap} {label : String} {a : Answer} :
    present? answers label = some a ↔ Given answers label a := by
  rw [present?, Option.filter_eq_some_iff, Given, Bool.not_eq_true', ← Bool.not_eq_true,
    isBlank_iff, not_or]

theorem Given.unique {answers : AnswerMap} {label : String} {a b : Answer}
    (ha : Given answers label a) (hb : Given answers label b) : a = b :=
  Option.some.inj (ha.1.symm.trans hb.1)

theorem Given.not_missing {answers : AnswerMap} {label : String} {a : Answer}
    (ha : Given answers label a) : ¬ Missing answers label := by
  rw [← present?_eq_none, present?_eq_some.2 ha]
  simp

end AnswerMap

namespace Criterion

open AnswerMap (Missing Given)

/-! ## Answers that fall short -/

/-- The answers fall short of the criterion. -/
inductive Violated (answers : AnswerMap) (c : Criterion) : Prop
  /-- An answer is required, and there is none. -/
  | unanswered (required : c.required = true) (missing : Missing answers c.label)
  /-- The answer says a finite number, and the rule does not hold of it. -/
  | outOfRange {a : Answer} {value : Binary64} {rule : NumericRule}
      (given : Given answers c.label a) (stated : ¬ Text.allBlank c.rule = true)
      (number : c.kind = .number) (reads : a.number? = some value)
      (parses : NumericRule.parse c.rule = .ok rule) (fails : ¬ rule.Matches value)
  /-- The allow-list names texts, and the text of the answer is not among them. -/
  | notAllowed {a : Answer}
      (given : Given answers c.label a) (stated : ¬ Text.allBlank c.rule = true)
      (text : c.kind = .text) (listed : AllowList.ofText c.rule ≠ [])
      (fails : Text.lowercase (Text.trim a.toText) ∉ AllowList.ofText c.rule)

theorem checkNumber_isFailure {a : Answer} {rule label : String} :
    (checkNumber a rule label).isFailure = true ↔
      ∃ value parsed, a.number? = some value ∧ NumericRule.parse rule = .ok parsed ∧
        ¬ parsed.Matches value := by
  rw [checkNumber]
  cases a.number? with
  | none => simp [Outcome.isFailure]
  | some value =>
    cases NumericRule.parse rule with
    | error e => simp [Outcome.isFailure]
    | ok parsed => by_cases h : parsed.Matches value <;> simp [Outcome.isFailure, h]

theorem accepts_iff {allowed : List String} {text : String} :
    AllowList.accepts allowed text = true ↔ Text.lowercase (Text.trim text) ∈ allowed := by
  rw [AllowList.accepts, List.contains_iff_mem, AllowList.normal, Text.lowercase, Text.trim,
    String.toList_ofList]

theorem checkText_isFailure {a : Answer} {rule label : String} :
    (checkText a rule label).isFailure = true ↔
      AllowList.ofText rule ≠ [] ∧ Text.lowercase (Text.trim a.toText) ∉ AllowList.ofText rule := by
  rw [checkText, ← accepts_iff]
  cases AllowList.ofText rule with
  | nil => simp [Outcome.isFailure]
  | cons token rest =>
    by_cases h : AllowList.accepts (token :: rest) a.toText = true <;> simp [Outcome.isFailure, h]

/-- An answer that was entered fails in one of two ways, by the kind of the field. -/
theorem checkAnswer_isFailure {c : Criterion} {a : Answer} :
    (c.checkAnswer a).isFailure = true ↔
      ¬ Text.allBlank c.rule = true ∧
        (c.kind = .number ∧ (checkNumber a c.rule c.label).isFailure = true ∨
          c.kind = .text ∧ (checkText a c.rule c.label).isFailure = true) := by
  rw [checkAnswer]
  by_cases hb : Text.allBlank c.rule = true
  · simp [hb, Outcome.isFailure]
  · rw [if_neg hb]
    cases hk : c.kind <;> simp [hb, Outcome.isFailure]

/-- **A criterion fails exactly if it is violated.** -/
theorem check?_isFailure {answers : AnswerMap} {c : Criterion} :
    (∃ o, c.check? answers = some o ∧ o.isFailure = true) ↔ c.Violated answers := by
  rw [check?]
  cases hp : AnswerMap.present? answers c.label with
  | none =>
    have hm : Missing answers c.label := AnswerMap.present?_eq_none.1 hp
    constructor
    · rintro ⟨o, ho, -⟩
      by_cases hr : c.required = true
      · exact .unanswered hr hm
      · simp [hr] at ho
    · intro h
      cases h with
      | unanswered hr _ => exact ⟨_, if_pos hr, rfl⟩
      | outOfRange ha => exact absurd hm ha.not_missing
      | notAllowed ha => exact absurd hm ha.not_missing
  | some a =>
    have ha : Given answers c.label a := AnswerMap.present?_eq_some.1 hp
    constructor
    · rintro ⟨o, ho, hf⟩
      rw [← Option.some.inj ho, checkAnswer_isFailure] at hf
      obtain ⟨hs, ⟨hk, hf⟩ | ⟨hk, hf⟩⟩ := hf
      · obtain ⟨value, rule, hv, hr, hn⟩ := checkNumber_isFailure.1 hf
        exact .outOfRange ha hs hk hv hr hn
      · obtain ⟨hl, hn⟩ := checkText_isFailure.1 hf
        exact .notAllowed ha hs hk hl hn
    · intro h
      refine ⟨_, rfl, checkAnswer_isFailure.2 ?_⟩
      cases h with
      | unanswered _ hm => exact absurd hm ha.not_missing
      | outOfRange hb hs hk hv hr hn =>
        rw [hb.unique ha] at hv
        exact ⟨hs, .inl ⟨hk, checkNumber_isFailure.2 ⟨_, _, hv, hr, hn⟩⟩⟩
      | notAllowed hb hs hk hl hn =>
        rw [hb.unique ha] at hn
        exact ⟨hs, .inr ⟨hk, checkText_isFailure.2 ⟨hl, hn⟩⟩⟩

/-! ## Criteria that say nothing -/

/-- The criterion has nothing to say against the answers: it is optional and unanswered, or it
cannot be applied to the answer. -/
inductive Undecided (answers : AnswerMap) (c : Criterion) : Prop
  | unanswered (optional : c.required = false) (missing : Missing answers c.label)
  | blankRule {a : Answer} (given : Given answers c.label a)
      (blank : Text.allBlank c.rule = true)
  | malformedRule {a : Answer} {e : NumericRule.ParseError} (given : Given answers c.label a)
      (number : c.kind = .number) (malformed : NumericRule.parse c.rule = .error e)
  | notNumeric {a : Answer} (given : Given answers c.label a) (number : c.kind = .number)
      (reads : a.number? = none)
  | unsupported {a : Answer} {name : String} (given : Given answers c.label a)
      (kind : c.kind = .unsupported name)
  | emptyList {a : Answer} (given : Given answers c.label a) (text : c.kind = .text)
      (empty : AllowList.ofText c.rule = [])

/-- A criterion that is undecided is not violated. -/
theorem Undecided.not_violated {answers : AnswerMap} {c : Criterion} (h : c.Undecided answers) :
    ¬ c.Violated answers := by
  intro hv
  cases hv with
  | unanswered hr hm =>
    cases h with
    | unanswered ho _ => simp [hr] at ho
    | blankRule ha => exact ha.not_missing hm
    | malformedRule ha => exact ha.not_missing hm
    | notNumeric ha => exact ha.not_missing hm
    | unsupported ha => exact ha.not_missing hm
    | emptyList ha => exact ha.not_missing hm
  | outOfRange hb hs hk hv hr hn =>
    cases h with
    | unanswered _ hm => exact hb.not_missing hm
    | blankRule _ hblank => exact hs hblank
    | malformedRule _ _ he => simp [he] at hr
    | notNumeric ha _ hnone => simp [hb.unique ha, hnone] at hv
    | unsupported _ hk' => simp [hk] at hk'
    | emptyList _ hk' => simp [hk] at hk'
  | notAllowed hb hs hk hl hn =>
    cases h with
    | unanswered _ hm => exact hb.not_missing hm
    | blankRule _ hblank => exact hs hblank
    | malformedRule _ hk' => simp [hk] at hk'
    | notNumeric _ hk' => simp [hk] at hk'
    | unsupported _ hk' => simp [hk] at hk'
    | emptyList _ _ he => exact hl he

end Criterion

/-! ## The verdict on all criteria -/

theorem Criterion.isScoreRow_iff {c : Criterion} :
    c.isScoreRow = true ↔ c.label = Criterion.scoreRowLabel := beq_iff_eq

theorem mem_answerRules {criteria : List Criterion} {c : Criterion} :
    c ∈ answerRules criteria ↔ c ∈ criteria ∧ c.label ≠ Criterion.scoreRowLabel := by
  simp [answerRules, Criterion.isScoreRow]

theorem exists_failure_checkAll {rules : List Criterion} {answers : AnswerMap} :
    (∃ o ∈ checkAll rules answers, o.isFailure = true) ↔ ∃ c ∈ rules, c.Violated answers := by
  constructor
  · rintro ⟨o, ho, hf⟩
    obtain ⟨c, hc, ho⟩ := List.mem_filterMap.1 ho
    exact ⟨c, hc, Criterion.check?_isFailure.1 ⟨o, ho, hf⟩⟩
  · rintro ⟨c, hc, hv⟩
    obtain ⟨o, ho, hf⟩ := Criterion.check?_isFailure.2 hv
    exact ⟨o, List.mem_filterMap.2 ⟨c, hc, ho⟩, hf⟩

/-- Answers that are missing as a whole are a failure under any rules. -/
theorem exists_failure_judge {rules : List Criterion} {answers : Option AnswerMap} :
    (∃ o ∈ judge rules answers, o.isFailure = true) ↔
      answers = none ∨ ∃ given, answers = some given ∧ ∃ c ∈ rules, c.Violated given := by
  cases answers with
  | none => simp [judge, invalidAnswers, Outcome.isFailure]
  | some given => simp [judge, exists_failure_checkAll]

/-- There are answers, and they violate none of the criteria. -/
def AnswersPass (criteria : List Criterion) (answers : Option AnswerMap) : Prop :=
  ∃ given, answers = some given ∧
    ∀ c ∈ criteria, c.label ≠ Criterion.scoreRowLabel → ¬ c.Violated given

theorem exists_failure_answerRules {criteria : List Criterion} {answers : Option AnswerMap} :
    (∃ o ∈ judge (answerRules criteria) answers, o.isFailure = true) ↔
      ¬ AnswersPass criteria answers := by
  rw [exists_failure_judge, AnswersPass]
  cases answers with
  | none => simp
  | some given => simp [mem_answerRules, and_assoc]

/-- The answers reject the applicant: a criterion judges answers, and there are none or they
violate it. -/
theorem status_evaluate {criteria : List Criterion} {answers : Option AnswerMap} :
    (evaluate criteria answers).status = .tidakLolos ↔
      ∃ c ∈ criteria, c.label ≠ Criterion.scoreRowLabel ∧
        (answers = none ∨ ∃ given, answers = some given ∧ c.Violated given) := by
  rw [evaluate, Verdict.status_ofOutcomes]
  by_cases hr : (answerRules criteria).isEmpty = true
  · rw [if_pos hr]
    rw [List.isEmpty_iff] at hr
    have hno : ∀ c ∈ criteria, ¬ c.label ≠ Criterion.scoreRowLabel := fun c hc hl => by
      have hmem := mem_answerRules.2 ⟨hc, hl⟩
      simp [hr] at hmem
    constructor
    · simp [noCriteria, Outcome.isFailure]
    · rintro ⟨c, hc, hl, -⟩
      exact absurd hl (hno c hc)
  · rw [if_neg hr, exists_failure_judge]
    constructor
    · rintro (hn | ⟨given, hg, c, hc, hv⟩)
      · rw [List.isEmpty_iff] at hr
        obtain ⟨c, hc⟩ := List.exists_mem_of_ne_nil _ hr
        exact ⟨c, (mem_answerRules.1 hc).1, (mem_answerRules.1 hc).2, .inl hn⟩
      · exact ⟨c, (mem_answerRules.1 hc).1, (mem_answerRules.1 hc).2, .inr ⟨given, hg, hv⟩⟩
    · rintro ⟨c, hc, hl, hn | ⟨given, hg, hv⟩⟩
      · exact .inl hn
      · exact .inr ⟨given, hg, c, mem_answerRules.2 ⟨hc, hl⟩, hv⟩

/-- **What a rejection means.**  A rejection is a failure on the log, and both say that some
criterion judges answers and there are none or they violate it.  A criterion that is undecided on
the answers can be taken out of the list, or put in anywhere, without changing the status. -/
theorem evaluate_status_iff (criteria : List Criterion) (answers : Option AnswerMap) :
    ((evaluate criteria answers).status = .tidakLolos ↔
      ∃ c ∈ criteria, c.label ≠ Criterion.scoreRowLabel ∧
        (answers = none ∨ ∃ given, answers = some given ∧ c.Violated given)) ∧
    ((evaluate criteria answers).status = .tidakLolos ↔
      (evaluate criteria answers).log.failed ≠ []) ∧
    ∀ (before after : List Criterion) (c : Criterion) (given : AnswerMap),
      criteria = before ++ c :: after → answers = some given → c.Undecided given →
        (evaluate criteria answers).status = (evaluate (before ++ after) answers).status := by
  refine ⟨status_evaluate, Verdict.status_ofOutcomes_iff_failed _, ?_⟩
  rintro before after c given rfl rfl hu
  rw [Verdict.status_eq_iff, status_evaluate, status_evaluate]
  simp [or_and_right, exists_or, hu.not_violated]

/-- A rule that is no rule leaves a rejection to the other criteria, also when it stands first. -/
theorem evaluate_status_iff_malformed :
    Criterion.Undecided (Keyed.ofList [("ipk", .text "2.5"), ("usia", .text "20")])
      ⟨"usia", .number, "abc", true⟩ ∧
    (evaluate [⟨"usia", .number, "abc", true⟩, ⟨"ipk", .number, ">= 3.0", true⟩]
        (some (.ofList [("ipk", .text "2.5"), ("usia", .text "20")]))).status =
      (evaluate [⟨"ipk", .number, ">= 3.0", true⟩]
        (some (.ofList [("ipk", .text "2.5"), ("usia", .text "20")]))).status ∧
    (evaluate [⟨"ipk", .number, ">= 3.0", true⟩]
        (some (.ofList [("ipk", .text "2.5"), ("usia", .text "20")]))).status = .tidakLolos := by
  have given : AnswerMap.Given (.ofList [("ipk", .text "2.5"), ("usia", .text "20")]) "usia"
      (.text "20") := ⟨rfl, by simp, by simp⟩
  have malformed : NumericRule.parse "abc" = .error ⟨"abc"⟩ := rfl
  have hu := Criterion.Undecided.malformedRule (c := ⟨"usia", .number, "abc", true⟩) given rfl
    malformed
  exact ⟨hu, (evaluate_status_iff _ _).2.2 [] [_] _ _ rfl rfl hu, by decide +kernel⟩

end Hiring
