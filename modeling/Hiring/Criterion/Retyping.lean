import Hiring.Answer.Map
import Hiring.Criterion.Basic

/-!
# Retyping answers

Before answers are judged they take the type that their field declares: an answer to a number
field that says a number becomes that number, and an answer to a text field becomes its text
without outer blanks.  Blank answers, and answers that cannot be retyped, stay as they are.

* `Answer.retyped` — one answer in the type of its field.
* `retype` — all answers, by the criteria in their order; no label comes or goes.
-/

namespace Hiring

/-- The answer in the type of its field. -/
def Answer.retyped (kind : Criterion.Kind) (a : Answer) : Answer :=
  if a.isBlank then a
  else
    match kind with
    | .number =>
      match a.number? with
      | some x => .number x
      | none => a
    | .text => .text (Text.trim a.toText)
    | .unsupported _ => a

/-- The answers with the one under the label of a criterion in its type. -/
def Criterion.retype (c : Criterion) (answers : AnswerMap) : AnswerMap :=
  answers.modify c.label (Answer.retyped c.kind)

/-- The answers in the types of their fields. -/
def retype (criteria : List Criterion) (answers : AnswerMap) : AnswerMap :=
  criteria.foldl (fun answers c => c.retype answers) answers

/-- A blank answer is left alone. -/
theorem Answer.retyped_of_isBlank {kind : Criterion.Kind} {a : Answer} (h : a.isBlank = true) :
    a.retyped kind = a := by
  simp [retyped, h]

/-- Retyping by one criterion changes the answer under its label only. -/
theorem Criterion.get?_retype (c : Criterion) (answers : AnswerMap) (label : String) :
    (c.retype answers).get? label =
      if label = c.label then (answers.get? label).map (Answer.retyped c.kind)
      else answers.get? label := by
  unfold retype Keyed.modify
  by_cases h : label = c.label
  · subst h
    cases hg : answers.get? c.label <;> simp [hg]
  · cases hg : answers.get? c.label <;> simp [h, Keyed.get?_insert]

end Hiring
