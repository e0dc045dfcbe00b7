import Hiring.Json.Fields
import Hiring.Verdict.Outcome

/-!
# Verdicts

The outcomes of all criteria together: one failure rejects the applicant.

* `Log` — the reasons, by the kind of their outcome, each kind in the order of the criteria.
* `Verdict` — the status and the log.
* `Log.ofOutcomes`, `Verdict.ofOutcomes` — both from the outcomes.
-/

namespace Hiring

open Json (Decoder Fields)

/-- The reasons of outcomes, by kind. -/
structure Log where
  passed : List String
  failed : List String
  review : List String
deriving Repr, DecidableEq

namespace Log

/-- The log without reasons. -/
def empty : Log := ⟨[], [], []⟩

/-- The log with the reason of one more outcome at its end. -/
def add (log : Log) : Outcome → Log
  | .passed r => { log with passed := log.passed ++ [r] }
  | .failed r => { log with failed := log.failed ++ [r] }
  | .needsReview r => { log with review := log.review ++ [r] }

/-- The log of some outcomes. -/
def ofOutcomes (outcomes : List Outcome) : Log := outcomes.foldl add empty

/-- The number of reasons. -/
def size (log : Log) : Nat := log.passed.length + log.failed.length + log.review.length

/-- There are no reasons. -/
def isEmpty (log : Log) : Bool := log.size == 0

end Log

/-- The result of screening as a whole. -/
inductive Verdict.Status where
  | lolos
  | tidakLolos
deriving Repr, DecidableEq

/-- The status of an applicant after screening, and the reasons. -/
structure Verdict where
  status : Verdict.Status
  log : Log
deriving Repr, DecidableEq

namespace Verdict

/-- The status as it is shown and stored. -/
def Status.label : Status → String
  | .lolos => "Lolos"
  | .tidakLolos => "Tidak Lolos"

/-- The applicant passed. -/
def passed (v : Verdict) : Bool := v.status == .lolos

/-- The verdict on some outcomes: rejected if one of them is a failure. -/
def ofOutcomes (outcomes : List Outcome) : Verdict where
  status := if outcomes.any Outcome.isFailure then .tidakLolos else .lolos
  log := Log.ofOutcomes outcomes

end Verdict

/-! ## In documents -/

namespace Log

/-- A reason in a document. -/
def reasonDecoder : Decoder String :=
  .record "LogEntry" (id <$> .required "reason" .string)

/-- A log in a document; a list of reasons may be left out. -/
def decoder : Decoder Log :=
  .record "ScreeningLog" (Log.mk <$> .defaulted "Lolos" (.list reasonDecoder) []
    <*> .defaulted "Tidak Lolos" (.list reasonDecoder) []
    <*> .defaulted "Review" (.list reasonDecoder) [])

/-- Reasons as a list in a document. -/
def reasonsToJson (reasons : List String) : Json :=
  .array (reasons.map fun r => .object [("reason", .string r)])

/-- The log as a value in a document. -/
def toJson (log : Log) : Json :=
  .object [("Lolos", reasonsToJson log.passed), ("Tidak Lolos", reasonsToJson log.failed),
    ("Review", reasonsToJson log.review)]

end Log

namespace Verdict

/-- A status in a document. -/
def Status.decoder : Decoder Status :=
  .variant [("Lolos", .lolos), ("Tidak Lolos", .tidakLolos)]

/-- A verdict in a document. -/
def decoder : Decoder Verdict :=
  .record "ScreeningVerdict" (Verdict.mk <$> .required "status" Status.decoder
    <*> .required "log" Log.decoder)

/-- The verdict as a value in a document. -/
def toJson (v : Verdict) : Json :=
  .object [("status", .string v.status.label), ("log", v.log.toJson)]

end Verdict

end Hiring
