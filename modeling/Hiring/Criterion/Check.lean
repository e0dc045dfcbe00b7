import Hiring.Answer.Map
import Hiring.Criterion.AllowList
import Hiring.Criterion.Basic
import Hiring.Criterion.NumericRule
import Hiring.Verdict.Outcome

/-!
# Checking answers against criteria

* `checkNumber` — an answer against a rule for numbers.
* `checkText` — an answer against an allow-list.
* `Criterion.check?` — the answer to the field of a criterion, if there is anything to say about
  it: an optional field that was left blank is passed over.
* `checkAll` — the outcomes of several criteria in their order.

Checking never fails: a rule that makes no sense, or an answer that it cannot be applied to, is
left to a person.
-/

namespace Hiring

/-- The outcome of an answer under a rule for numbers. -/
def checkNumber (answer : Answer) (rule label : String) : Outcome :=
  match answer.number? with
  | none =>
    .needsReview ("Jawaban '" ++ answer.toText ++ "' untuk " ++ label ++ " bukan angka yang valid.")
  | some value =>
    match NumericRule.parse rule with
    | .error _ =>
      .needsReview ("Format kriteria '" ++ rule ++ "' untuk " ++ label ++ " tidak valid.")
    | .ok parsed =>
      if parsed.Matches value then
        .passed ("Jawaban " ++ answer.toText ++ " untuk " ++ label ++ " memenuhi kriteria " ++
          parsed.text ++ ".")
      else
        .failed ("Jawaban " ++ answer.toText ++ " untuk " ++ label ++ " tidak memenuhi syarat " ++
          parsed.text ++ ".")

/-- The outcome of an answer under an allow-list. -/
def checkText (answer : Answer) (rule label : String) : Outcome :=
  let allowed := AllowList.ofText rule
  if allowed.isEmpty then .needsReview ("Kriteria untuk " ++ label ++ " kosong.")
  else if AllowList.accepts allowed answer.toText then
    .passed ("Jawaban '" ++ answer.toText ++ "' untuk " ++ label ++
      " memenuhi kriteria yang diizinkan.")
  else
    .failed ("Jawaban '" ++ answer.toText ++ "' untuk " ++ label ++
      " tidak ada di daftar yang diizinkan: " ++ AllowList.shown allowed ++ ".")

/-- The outcome of an answer that is not blank. -/
def Criterion.checkAnswer (c : Criterion) (answer : Answer) : Outcome :=
  if Text.allBlank c.rule then
    .needsReview ("Kriteria untuk " ++ c.label ++ " tidak didefinisikan.")
  else
    match c.kind with
    | .number => checkNumber answer c.rule c.label
    | .text => checkText answer c.rule c.label
    | .unsupported kind =>
      .needsReview ("Tipe kriteria '" ++ kind ++ "' untuk " ++ c.label ++ " tidak didukung.")

/-- The outcome of a criterion, if there is one: a missing answer fails a required field and is
passed over for an optional one. -/
def Criterion.check? (answers : AnswerMap) (c : Criterion) : Option Outcome :=
  match AnswerMap.present? answers c.label with
  | some answer => some (c.checkAnswer answer)
  | none =>
    if c.required then
      some (.failed ("Jawaban untuk " ++ c.label ++ " tidak ditemukan atau kosong."))
    else none

/-- The outcomes of some criteria, in their order. -/
def checkAll (criteria : List Criterion) (answers : AnswerMap) : List Outcome :=
  criteria.filterMap (Criterion.check? answers)

theorem checkAll_append (c₁ c₂ : List Criterion) (answers : AnswerMap) :
    checkAll (c₁ ++ c₂) answers = checkAll c₁ answers ++ checkAll c₂ answers := by
  simp [checkAll]

end Hiring
