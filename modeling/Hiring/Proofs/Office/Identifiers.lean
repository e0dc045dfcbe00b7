import Hiring.Proofs.Office.Ledger

/-!
# Identifiers are never reused

Requests that are under way at once draw their identifiers from counters that they share, and
between drawing an identifier and storing a record under it a request lets others pass.  Even so no
identifier is issued twice, no insertion finds a record in its place, and no request ends with a
conflict, in any order of calls and whatever other requests do, until a counter comes round.

* `Office.booked_together` — requests that begin on empty storages own the nothing they have in
  hand.
* `Office.identifiers_never_reused` — **all of this**.
-/

set_option autoImplicit false

namespace Hiring

namespace Office

theorem booked_together (o : Office) (requests : List Request) (nextJob nextApplicant : UInt64) :
    (o.together requests (.emptyAt nextJob nextApplicant)).Booked
      (fun answered _ => NoConflict answered) (Store.emptyAt nextJob nextApplicant).next [] := by
  refine Pool.booked_start ?_ (.start nextJob nextApplicant)
  intro script hscript
  obtain ⟨r, -, rfl⟩ := List.mem_map.1 hscript
  exact owns_script o r Hand.empty

/-- A request that has come to its end in a pool whose books are kept did not meet a conflict. -/
theorem noConflict_of_booked {first : Counter → UInt64} {log : List Exchange} {p : Pool Answered}
    (booked : p.Booked (fun answered _ => NoConflict answered) first log) {answered : Answered}
    (ended : .done answered ∈ p.scripts) : NoConflict answered := by
  obtain ⟨owners, hscripts, howns, -⟩ := booked
  rw [hscripts] at ended
  obtain ⟨⟨script, hand⟩, howner, hscript⟩ := List.mem_map.1 ended
  have howns := howns _ howner
  rw [hscript] at howns
  cases howns with
  | done h => exact h

/-- **Identifiers are never reused, and no insertion replaces a record.**  Any requests begin on
empty storages and make their calls in any order.  As long as no counter has come round, the
identifiers drawn from each counter are all different, each insertion is answered with the record
and puts it where nothing was stored, and no request ends with a conflict. -/
theorem identifiers_never_reused (o : Office) (nextJob nextApplicant : UInt64)
    (requests : List Request) (turns : List (Nat × Timestamp)) (start : Pool Answered)
    (empty : start = o.together requests (.emptyAt nextJob nextApplicant))
    (inRange : ∀ k, (issued k (start.transcript turns)).length ≤ 2 ^ 64) :
    (∀ k, (issued k (start.transcript turns)).Nodup) ∧
    (∀ job reply before after,
      (⟨.insertJob job, reply, before, after⟩ : Exchange) ∈ start.transcript turns →
        reply = .ok job ∧ before.jobs.get? job.id = none ∧ after = before.post job) ∧
    (∀ a reply before after,
      (⟨.insertApplicant a, reply, before, after⟩ : Exchange) ∈ start.transcript turns →
        reply = .ok a ∧ before.applicants.get? a.id = none ∧ after = before.put a) ∧
    ∀ r, .done ⟨r, .error (.storage .conflict)⟩ ∉ (start.take turns).scripts := by
  subst empty
  obtain ⟨haccepted, hbooked⟩ :=
    (booked_together o requests nextJob nextApplicant).take turns inRange
  refine ⟨fun k => ?_, ?_, ?_, ?_⟩
  · obtain ⟨owners, -, -, ledger⟩ := hbooked
    exact ledger.nodup inRange k
  · intro job reply before after hcall
    exact haccepted _ hcall
  · intro a reply before after hcall
    exact haccepted _ hcall
  · intro r hended
    exact noConflict_of_booked hbooked hended rfl

/-- Two positions are opened at once where six digits no longer do, and meanwhile an application for
one of them comes in. -/
theorem identifiers_never_reused_unpadded :
    ∃ start, start = together ⟨Screener.standard⟩
        [.createJob ⟨"Staf", "", "", "", []⟩, .createJob ⟨"Kasir", "", "", "", []⟩,
          .apply ⟨"job-1000000", "Ani", "ani@example.id", none, none, [], none, none⟩]
        (.emptyAt 999999 1) ∧
      issued .jobs (start.transcript
        ([0, 1, 1, 2, 2, 2, 2, 0].map fun i => (i, ⟨2024, 5, 1, 8, 0, 0, 0⟩))) =
          ["job-999999", "job-1000000"] ∧
      (issued .jobs (start.transcript
        ([0, 1, 1, 2, 2, 2, 2, 0].map fun i => (i, ⟨2024, 5, 1, 8, 0, 0, 0⟩)))).Nodup ∧
      (start.take ([0, 1, 1, 2, 2, 2, 2, 0].map fun i => (i, ⟨2024, 5, 1, 8, 0, 0, 0⟩))).Finished ∧
      ∀ r, .done ⟨r, .error (.storage .conflict)⟩ ∉
        (start.take ([0, 1, 1, 2, 2, 2, 2, 0].map fun i =>
          (i, ⟨2024, 5, 1, 8, 0, 0, 0⟩))).scripts := by
  refine ⟨_, rfl, by decide +kernel, ?_⟩
  have inRange : ∀ k, (issued k ((together ⟨Screener.standard⟩
      [.createJob ⟨"Staf", "", "", "", []⟩, .createJob ⟨"Kasir", "", "", "", []⟩,
        .apply ⟨"job-1000000", "Ani", "ani@example.id", none, none, [], none, none⟩]
      (.emptyAt 999999 1)).transcript ([0, 1, 1, 2, 2, 2, 2, 0].map fun i =>
        (i, ⟨2024, 5, 1, 8, 0, 0, 0⟩)))).length ≤ 2 ^ 64 := by
    intro k
    cases k with
    | jobs => decide +kernel
    | applicants => decide +kernel
  obtain ⟨hnodup, -, -, hends⟩ :=
    identifiers_never_reused ⟨Screener.standard⟩ 999999 1 _ _ _ rfl inRange
  exact ⟨hnodup .jobs, by decide +kernel, hends⟩

end Office

end Hiring
