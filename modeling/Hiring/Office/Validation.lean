import Hiring.Applicant.Basic

/-!
# What is refused before anything is stored

* `InvalidInput` — why a draft or a submission is refused.
* `JobDraft.validate` — a draft needs a title, and its labels must not be blank or equal once
  trimmed.  The first fault counts.
* `Submission.validate` — a submission names a job, a person and an address.
-/

namespace Hiring

/-- Why a draft or a submission is refused. -/
inductive InvalidInput where
  /-- A field that has to be filled in is blank. -/
  | missingField (name : String)
  /-- The label of the criterion at a position, counted from zero, is blank. -/
  | blankLabel (index : Nat)
  /-- A label occurs a second time. -/
  | duplicateLabel (label : String)
deriving Repr, DecidableEq

/-- The wording of a refusal. -/
def InvalidInput.message : InvalidInput → String
  | .missingField name => name ++ " is required"
  | .blankLabel index => s!"criterion #{index} has an empty label"
  | .duplicateLabel label => "criterion label '" ++ label ++ "' is used more than once"

open Text

/-- The first fault of labels that follow the ones that were `seen`, at positions from `index`. -/
def checkLabels (index : Nat) (seen : List String) : List String → Except InvalidInput Unit
  | [] => .ok ()
  | label :: rest =>
    let label := trim label
    if label = "" then .error (.blankLabel index)
    else if label ∈ seen then .error (.duplicateLabel label)
    else checkLabels (index + 1) (label :: seen) rest

/-- The first fault of a draft. -/
def JobDraft.validate (d : JobDraft) : Except InvalidInput Unit :=
  if allBlank d.title then .error (.missingField "title")
  else checkLabels 0 [] (d.criteria.map (·.label))

/-- The first fault of a submission. -/
def Submission.validate (s : Submission) : Except InvalidInput Unit :=
  if allBlank s.jobId then .error (.missingField "job_id")
  else if allBlank s.name then .error (.missingField "name")
  else if allBlank s.email then .error (.missingField "email")
  else .ok ()

end Hiring
