import Hiring.Answer.Basic
import Hiring.Json.Decoder

/-!
# The answers of an applicant

* `AnswerMap` — answers under the labels of the fields they were entered into.
* `AnswerMap.present?` — the answer under a label, unless nothing was entered.
* `AnswerMap.ofJson?`, `AnswerMap.toJson` — the answers in a document, where only an object is a
  map of answers.
-/

namespace Hiring

/-- Answers under the labels of their fields. -/
abbrev AnswerMap := Keyed Answer

namespace AnswerMap

/-- The answer under a label, unless it is missing or blank. -/
def present? (answers : AnswerMap) (label : String) : Option Answer :=
  (answers.get? label).filter fun a => !a.isBlank

/-- The answers that the fields of an object say; of two fields with one name the later one. -/
def ofJson? : Json → Option AnswerMap
  | .object fields => some (Keyed.ofList (fields.map fun (name, j) => (name, Answer.ofJson j)))
  | _ => none

/-- The answers as an object. -/
def toJson (answers : AnswerMap) : Json :=
  .object (answers.entries.map fun (label, a) => (label, a.toJson))

/-- The answers of an object. -/
def decoder : Json.Decoder AnswerMap := fun place d =>
  (Json.Decoder.entries Json.Decoder.json place d).map fun entries =>
    Keyed.ofList (entries.map fun (name, j) => (name, Answer.ofJson j))

theorem ofJson?_isSome_iff {j : Json} :
    (ofJson? j).isSome = true ↔ ∃ fields, j = .object fields := by
  cases j <;> simp [ofJson?]

end AnswerMap

end Hiring
