import Hiring.Criterion.Basic
import Hiring.Text.Blank

/-!
# Jobs

* `JobDraft` — what an administrator fills in to open a position.
* `JobPosting` — the position once it is open.
* `JobPosting.ofDraft` — the posting of a draft: the title is trimmed, all else stays as written.
-/

namespace Hiring

open Json (Decoder Fields)

/-- The identifier of a job. -/
abbrev JobId := String

/-- A position that is to be opened. -/
structure JobDraft where
  title : String
  company : String
  location : String
  description : String
  criteria : List Criterion
deriving Repr, DecidableEq

/-- A position that is open. -/
structure JobPosting where
  id : JobId
  title : String
  company : String
  location : String
  description : String
  criteria : List Criterion
deriving Repr, DecidableEq

namespace JobPosting

/-- The posting of a draft. -/
def ofDraft (id : JobId) (draft : JobDraft) : JobPosting where
  id := id
  title := Text.trim draft.title
  company := draft.company
  location := draft.location
  description := draft.description
  criteria := draft.criteria

/-- Applications for the job are screened. -/
def isScreened (job : JobPosting) : Bool := !job.criteria.isEmpty

end JobPosting

/-! ## In documents -/

/-- A draft in a document. -/
def JobDraft.decoder : Decoder JobDraft :=
  .record "JobDraft" (JobDraft.mk <$> .required "title" .string
    <*> .defaulted "company" .string ""
    <*> .defaulted "location" .string ""
    <*> .defaulted "description" .string ""
    <*> .defaulted "custom_fields" (.list Criterion.decoder) [])

/-- The draft as a value in a document. -/
def JobDraft.toJson (d : JobDraft) : Json :=
  .object [("title", .string d.title), ("company", .string d.company),
    ("location", .string d.location), ("description", .string d.description),
    ("custom_fields", Criterion.listToJson d.criteria)]

/-- A posting in a document. -/
def JobPosting.decoder : Decoder JobPosting :=
  .record "JobPosting" (JobPosting.mk <$> .required "id" .string
    <*> .required "title" .string
    <*> .required "company" .string
    <*> .required "location" .string
    <*> .required "description" .string
    <*> .required "custom_fields" (.list Criterion.decoder))

/-- The posting as a value in a document. -/
def JobPosting.toJson (j : JobPosting) : Json :=
  .object [("id", .string j.id), ("title", .string j.title), ("company", .string j.company),
    ("location", .string j.location), ("description", .string j.description),
    ("custom_fields", Criterion.listToJson j.criteria)]

end Hiring
