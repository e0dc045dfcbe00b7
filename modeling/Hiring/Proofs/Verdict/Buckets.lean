import Hiring.Verdict.Basic

/-!
# What a log holds

`Log.ofOutcomes` files outcomes one at a time, into one of three buckets, and the status comes from
a pass of its own over the outcomes.  Seen as a whole, the log is a function of the outcomes that
has nothing to do with the order of filing, and the two passes say the same.

* `Log.ofOutcomes_eq` — each bucket holds the reasons of the outcomes of its own kind in their
  order.
* `Log.reasons_ofOutcomes_perm`, `Log.size_ofOutcomes` — the buckets together hold each reason
  once.
* `Verdict.status_ofOutcomes`, `Verdict.status_ofOutcomes_iff_failed` — a verdict rejects exactly if
  one of the outcomes is a failure, which is exactly if the bucket of failures is not empty.
* `Log.append`, `Log.ofOutcomes_append` — logs are put together bucket by bucket.
* `Verdict.nothing_lost` — **nothing is lost, invented or moved** on the way from the outcomes to the
  verdict.
-/

set_option autoImplicit false

namespace Hiring

namespace Outcome

/-- The reason of an outcome that is a pass. -/
def passedReason? : Outcome → Option String
  | .passed r => some r
  | _ => none

/-- The reason of an outcome that is a failure. -/
def failedReason? : Outcome → Option String
  | .failed r => some r
  | _ => none

/-- The reason of an outcome that is left to a person. -/
def reviewReason? : Outcome → Option String
  | .needsReview r => some r
  | _ => none

theorem isFailure_iff {o : Outcome} : o.isFailure = true ↔ ∃ r, o.failedReason? = some r := by
  cases o <;> simp [isFailure, failedReason?]

end Outcome

namespace Log

/-- Filing outcomes puts the reasons of each kind behind those that were there. -/
theorem foldl_add (log : Log) (outcomes : List Outcome) :
    outcomes.foldl add log =
      ⟨log.passed ++ outcomes.filterMap Outcome.passedReason?,
        log.failed ++ outcomes.filterMap Outcome.failedReason?,
        log.review ++ outcomes.filterMap Outcome.reviewReason?⟩ := by
  induction outcomes generalizing log with
  | nil => simp
  | cons o rest ih =>
    rw [List.foldl_cons, ih]
    cases o <;>
      simp [add, List.filterMap_cons, Outcome.passedReason?, Outcome.failedReason?,
        Outcome.reviewReason?]

/-- **Each bucket holds the reasons of its kind**, in the order of the outcomes. -/
theorem ofOutcomes_eq (outcomes : List Outcome) :
    ofOutcomes outcomes =
      ⟨outcomes.filterMap Outcome.passedReason?, outcomes.filterMap Outcome.failedReason?,
        outcomes.filterMap Outcome.reviewReason?⟩ := by
  rw [ofOutcomes, foldl_add]
  simp [empty]

theorem failed_ofOutcomes_ne_nil {outcomes : List Outcome} :
    (ofOutcomes outcomes).failed ≠ [] ↔ ∃ o ∈ outcomes, o.isFailure = true := by
  rw [ofOutcomes_eq]
  constructor
  · intro h
    obtain ⟨r, hr⟩ := List.exists_mem_of_ne_nil _ h
    obtain ⟨o, ho, hr⟩ := List.mem_filterMap.1 hr
    exact ⟨o, ho, Outcome.isFailure_iff.2 ⟨r, hr⟩⟩
  · rintro ⟨o, ho, hf⟩
    obtain ⟨r, hr⟩ := Outcome.isFailure_iff.1 hf
    exact List.ne_nil_of_mem (List.mem_filterMap.2 ⟨o, ho, hr⟩)

/-- **Each reason is in a bucket**, and in one only: the buckets one after the other hold the
reasons of all outcomes in another order. -/
theorem reasons_ofOutcomes_perm (outcomes : List Outcome) :
    ((ofOutcomes outcomes).passed ++ (ofOutcomes outcomes).failed ++
      (ofOutcomes outcomes).review).Perm (outcomes.map Outcome.reason) := by
  rw [ofOutcomes_eq]
  induction outcomes with
  | nil => rfl
  | cons o rest ih =>
    cases o with
    | passed r => exact ih.cons r
    | failed r =>
      rw [List.append_assoc] at ih ⊢
      exact List.perm_middle.trans (ih.cons r)
    | needsReview r => exact List.perm_middle.trans (ih.cons r)

theorem size_ofOutcomes (outcomes : List Outcome) :
    (ofOutcomes outcomes).size = outcomes.length := by
  rw [← List.length_map Outcome.reason, ← (reasons_ofOutcomes_perm outcomes).length_eq,
    List.length_append, List.length_append, size]

theorem isEmpty_ofOutcomes (outcomes : List Outcome) :
    (ofOutcomes outcomes).isEmpty = true ↔ outcomes = [] := by
  rw [isEmpty, size_ofOutcomes, beq_iff_eq, List.length_eq_zero_iff]

/-- The log with the reasons of another one behind its own, bucket by bucket. -/
def append (first second : Log) : Log :=
  ⟨first.passed ++ second.passed, first.failed ++ second.failed, first.review ++ second.review⟩

/-- Outcomes that come first only put their reasons in front. -/
theorem ofOutcomes_append (first second : List Outcome) :
    ofOutcomes (first ++ second) = (ofOutcomes first).append (ofOutcomes second) := by
  rw [ofOutcomes_eq, ofOutcomes_eq first, ofOutcomes_eq second, append]
  simp only [List.filterMap_append]

end Log

namespace Verdict

theorem status_eq_lolos {status : Status} : status = .lolos ↔ ¬ status = .tidakLolos := by
  cases status <;> simp

/-- Two statuses are equal if they reject in the same cases. -/
theorem status_eq_iff {a b : Status} : a = b ↔ (a = .tidakLolos ↔ b = .tidakLolos) := by
  cases a <;> cases b <;> simp

theorem status_ofOutcomes {outcomes : List Outcome} :
    (ofOutcomes outcomes).status = .tidakLolos ↔ ∃ o ∈ outcomes, o.isFailure = true := by
  rw [ofOutcomes, ← List.any_eq_true]
  cases outcomes.any Outcome.isFailure <;> simp

/-- **A verdict rejects exactly if a failure is on its log.** -/
theorem status_ofOutcomes_iff_failed (outcomes : List Outcome) :
    (ofOutcomes outcomes).status = .tidakLolos ↔ (ofOutcomes outcomes).log.failed ≠ [] := by
  rw [status_ofOutcomes]
  exact Log.failed_ofOutcomes_ne_nil.symm

theorem status_ofOutcomes_append (first second : List Outcome) :
    (ofOutcomes (first ++ second)).status = .tidakLolos ↔
      (ofOutcomes first).status = .tidakLolos ∨ (ofOutcomes second).status = .tidakLolos := by
  simp only [status_ofOutcomes, List.mem_append, or_and_right, exists_or]

theorem lolos_ofOutcomes_append (first second : List Outcome) :
    (ofOutcomes (first ++ second)).status = .lolos ↔
      (ofOutcomes first).status = .lolos ∧ (ofOutcomes second).status = .lolos := by
  simp only [status_eq_lolos, status_ofOutcomes_append, not_or]

/-- **Nothing is lost, invented or moved.**  Each bucket of the log holds the reasons of the
outcomes of its kind, in their order, so that together they hold each reason once; the log is as
long as the list of outcomes, and the status rejects exactly if the bucket of failures holds
something.  Of outcomes in two parts, the log is that of the first part with that of the second
behind it, bucket by bucket, and the status lets pass if it does so for both parts. -/
theorem nothing_lost :
    (∀ outcomes : List Outcome,
      (ofOutcomes outcomes).log.passed = outcomes.filterMap Outcome.passedReason? ∧
      (ofOutcomes outcomes).log.failed = outcomes.filterMap Outcome.failedReason? ∧
      (ofOutcomes outcomes).log.review = outcomes.filterMap Outcome.reviewReason? ∧
      ((ofOutcomes outcomes).log.passed ++ (ofOutcomes outcomes).log.failed ++
        (ofOutcomes outcomes).log.review).Perm (outcomes.map Outcome.reason) ∧
      (ofOutcomes outcomes).log.size = outcomes.length ∧
      ((ofOutcomes outcomes).log.isEmpty = true ↔ outcomes = []) ∧
      ((ofOutcomes outcomes).status = .tidakLolos ↔ (ofOutcomes outcomes).log.failed ≠ [])) ∧
    ∀ first second : List Outcome,
      (ofOutcomes (first ++ second)).log =
        (ofOutcomes first).log.append (ofOutcomes second).log ∧
      ((ofOutcomes (first ++ second)).status = .lolos ↔
        (ofOutcomes first).status = .lolos ∧ (ofOutcomes second).status = .lolos) := by
  refine ⟨fun outcomes => ?_, fun first second =>
    ⟨Log.ofOutcomes_append first second, lolos_ofOutcomes_append first second⟩⟩
  have hbuckets := Log.ofOutcomes_eq outcomes
  exact ⟨congrArg Log.passed hbuckets, congrArg Log.failed hbuckets,
    congrArg Log.review hbuckets, Log.reasons_ofOutcomes_perm outcomes,
    Log.size_ofOutcomes outcomes, Log.isEmpty_ofOutcomes outcomes,
    status_ofOutcomes_iff_failed outcomes⟩

end Verdict

end Hiring
