import Hiring.Json.Fields

/-!
# Criteria

A job lists the fields of its form, each with a rule that the answer is judged by.

* `Criterion` — label, kind, rule text and whether an answer is required.
* `Criterion.Kind` — what the rule is about; a kind that is not known is kept as it was written.
* `Criterion.isScoreRow` — the row that holds the threshold for the score of the job instead of a
  rule for an answer.
-/

namespace Hiring

/-- The kinds of fields. -/
inductive Criterion.Kind where
  | number
  | text
  /-- Any other kind, by its name. -/
  | unsupported (name : String)
deriving Repr, DecidableEq

/-- One field of the form of a job, and the rule for its answer. -/
structure Criterion where
  label : String
  kind : Criterion.Kind
  rule : String
  required : Bool
deriving Repr, DecidableEq

namespace Criterion

/-- The name of a kind. -/
def Kind.name : Kind → String
  | .number => "number"
  | .text => "text"
  | .unsupported name => name

/-- The kind of a name. -/
def Kind.ofName (name : String) : Kind :=
  if name = "number" then .number
  else if name = "text" then .text
  else .unsupported name

/-- The label of the row that holds the threshold for the score. -/
def scoreRowLabel : String := "ai_score_threshold"

/-- The row holds a threshold for the score and no rule for an answer. -/
def isScoreRow (c : Criterion) : Bool := c.label == scoreRowLabel

/-- The name of the kind of a name is the name. -/
theorem Kind.name_ofName (name : String) : (Kind.ofName name).name = name := by
  unfold ofName
  split
  · simp_all [Kind.name]
  · split <;> simp_all [Kind.name]

/-! ## In documents -/

open Json (Decoder Fields)

/-- A kind, written as its name. -/
def Kind.decoder : Decoder Kind := fun p d => (Decoder.string p d).map Kind.ofName

/-- A criterion in a document. -/
def decoder : Decoder Criterion :=
  .record "CriterionDefinition" (Criterion.mk <$> .required "label" .string
    <*> .required "type" Kind.decoder
    <*> .defaulted "criteria" .string ""
    <*> .defaulted "required" .bool false)

/-- The criterion as a value in a document. -/
def toJson (c : Criterion) : Json :=
  .object [("label", .string c.label), ("type", .string c.kind.name), ("criteria", .string c.rule),
    ("required", .bool c.required)]

/-- Criteria as a list in a document. -/
def listToJson (cs : List Criterion) : Json := .array (cs.map toJson)

end Criterion

end Hiring
