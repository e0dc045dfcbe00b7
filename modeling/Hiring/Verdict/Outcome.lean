import Hiring.Json.Decoder

/-!
# Outcomes of single criteria

* `Outcome` — an answer passed, failed, or has to be looked at by a person, and why.
* `Outcome.decoder`, `Outcome.toJson` — an outcome in a document: a tag and a reason, as an object
  or as an array.
-/

namespace Hiring

/-- What came of checking one answer against one criterion. -/
inductive Outcome where
  | passed (reason : String)
  | failed (reason : String)
  | needsReview (reason : String)
deriving Repr, DecidableEq

namespace Outcome

/-- The reason in the words for the applicant. -/
def reason : Outcome → String
  | .passed r => r
  | .failed r => r
  | .needsReview r => r

/-- The outcome rejects the applicant. -/
def isFailure : Outcome → Bool
  | .failed _ => true
  | _ => false

/-! ## In documents -/

open Json (Decoder Document Fault Place)

/-- The tags of the outcomes. -/
def tags : List (String × (String × (String → Outcome))) := [
  ("passed", "Passed", .passed),
  ("failed", "Failed", .failed),
  ("needs_review", "NeedsReview", .needsReview)]

/-- The tag field and the reason field in an object. -/
def tagField : String := "outcome"

/-- The name of the field with the reason. -/
def reasonField : String := "reason"

/-- The tag of an object, and its other fields in their order.  A document in another field has to
be readable. -/
def splitTag (inside : Place) (tag : Option (String × (String → Outcome)))
    (before : List (String × Document)) :
    List (Option String × Document) →
      Except Fault (Option (String × (String → Outcome)) × List (String × Document))
  | [] => .ok (tag, before.reverse)
  | (none, _) :: _ => .error .malformed
  | (some name, d) :: rest =>
    if name = tagField then
      if tag.isSome then .error (.duplicateField tagField)
      else
        match Decoder.tag tags inside d with
        | .ok t => splitTag inside (some t) before rest
        | .error fault => .error fault
    else
      match Decoder.json inside d with
      | .ok _ => splitTag inside tag ((name, d) :: before) rest
      | .error fault => .error fault

/-- The reason among the other fields of an object. -/
def findReason (inside : Place) (reason : Option String) :
    List (String × Document) → Except Fault String
  | [] =>
    match reason with
    | some r => .ok r
    | none => .error (.missingField reasonField)
  | (name, d) :: rest =>
    if name = reasonField then
      if reason.isSome then .error (.duplicateField reasonField)
      else
        match Decoder.string inside d with
        | .ok r => findReason inside (some r) rest
        | .error fault => .error fault
    else findReason inside reason rest

/-- The reason among the items of an array that follow the tag. -/
def onlyReason (inside : Place) (variant : String) : List Document → Except Fault String
  | [] => .error (.wrongLength 0 ("struct variant CriterionOutcome::" ++ variant ++ " with 1 element"))
  | d :: rest => do
    let reason ← Decoder.string inside d
    if rest.isEmpty then .ok reason
    else .error (.wrongLength (rest.length + 1) "1 element in sequence")

/-- An outcome in a document. -/
def decoder : Decoder Outcome := fun p d =>
  match d with
  | .object fields closed => do
    let inside ← p.enter
    let (tag, others) ← splitTag inside none [] fields
    if !closed then .error .malformed
    else
      match tag with
      | some (_, make) => return make (← findReason inside none others)
      | none => .error (.missingField tagField)
  | .array [] closed => do
    let _ ← p.enter
    .error (if closed then .missingField tagField else .malformed)
  | .array (first :: rest) closed => do
    let inside ← p.enter
    let (variant, make) ← Decoder.tag tags inside first
    let _ ← rest.mapM (Decoder.json inside)
    if !closed then .error .malformed
    else return make (← onlyReason inside variant rest)
  | d => .error (Decoder.mismatch "internally tagged enum CriterionOutcome" d)

/-- The tag of an outcome. -/
def tagName : Outcome → String
  | .passed _ => "passed"
  | .failed _ => "failed"
  | .needsReview _ => "needs_review"

/-- The outcome as a value in a document. -/
def toJson (o : Outcome) : Json :=
  .object [(tagField, .string o.tagName), (reasonField, .string o.reason)]

end Outcome

end Hiring
