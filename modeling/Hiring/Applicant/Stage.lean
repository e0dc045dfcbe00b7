import Hiring.Verdict.Basic

/-!
# Stages of an application

* `Stage` — how far an application has come.
* `Stage.isScreening` — the stages that screening may still change.
* `AutoScreening` — what is stored about the last screening of an applicant.
* `Stage.ofStatus`, `AutoScreening.ofStatus` — both as a verdict implies them.
-/

namespace Hiring

open Json (Decoder)

/-- The stages of an application. -/
inductive Stage where
  | applied
  | shortlisted
  | scheduledForAssessment
  | interviewed
  | hired
  | rejected
deriving Repr, DecidableEq

/-- The state of screening as it is stored. -/
inductive AutoScreening where
  /-- No screening has taken place. -/
  | pending
  | lolos
  | tidakLolos
deriving Repr, DecidableEq

namespace Stage

/-- The stage as it is shown and stored. -/
def label : Stage → String
  | .applied => "Applied"
  | .shortlisted => "Shortlisted"
  | .scheduledForAssessment => "Scheduled for Assessment"
  | .interviewed => "Interviewed"
  | .hired => "Hired"
  | .rejected => "Rejected"

/-- The stage that a verdict implies. -/
def ofStatus : Verdict.Status → Stage
  | .lolos => .shortlisted
  | .tidakLolos => .rejected

/-- Screening may still change the stage. -/
def isScreening : Stage → Bool
  | .applied => true
  | .shortlisted => true
  | .rejected => true
  | _ => false

/-- All stages in their order. -/
def all : List Stage :=
  [.applied, .shortlisted, .scheduledForAssessment, .interviewed, .hired, .rejected]

theorem mem_all (s : Stage) : s ∈ all := by cases s <;> decide

/-- What a verdict implies is a screening stage. -/
theorem isScreening_ofStatus (s : Verdict.Status) : (ofStatus s).isScreening = true := by
  cases s <;> rfl

/-- A stage in a document. -/
def decoder : Decoder Stage := .variant (all.map fun s => (s.label, s))

/-- The stage as a value in a document. -/
def toJson (s : Stage) : Json := .string s.label

end Stage

namespace AutoScreening

/-- The state as it is shown and stored. -/
def label : AutoScreening → String
  | .pending => "Belum Diproses"
  | .lolos => "Lolos"
  | .tidakLolos => "Tidak Lolos"

/-- The state after a screening. -/
def ofStatus : Verdict.Status → AutoScreening
  | .lolos => .lolos
  | .tidakLolos => .tidakLolos

/-- All states in their order. -/
def all : List AutoScreening := [.pending, .lolos, .tidakLolos]

theorem mem_all (s : AutoScreening) : s ∈ all := by cases s <;> decide

/-- A verdict has the same label everywhere. -/
theorem label_ofStatus (s : Verdict.Status) : (ofStatus s).label = s.label := by
  cases s <;> rfl

/-- A state in a document. -/
def decoder : Decoder AutoScreening := .variant (all.map fun s => (s.label, s))

/-- The state as a value in a document. -/
def toJson (s : AutoScreening) : Json := .string s.label

end AutoScreening

end Hiring
