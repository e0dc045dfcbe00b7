import Hiring.Proofs.Office.Registers

/-!
# What is listed

Jobs are listed by their identifiers, and the applications for a job by the time at which they came
in and then by their identifiers.  Both orders are strict, since identifiers are never used twice;
this makes the lists independent of how the storage goes through its records, and complete lists of
what is in the registers.  Identifiers are compared as texts, so that the order in which positions
were opened is the order in which they are listed only as long as six digits are enough; and that
applications are listed in the order in which they came in depends on the clock as well.

* `Office.listed_jobs`, `Office.listed_applicants` — what is listed after a run.
* `Office.listings_ordered` — **lists are complete, without repetition, and in their order.**
-/

set_option autoImplicit false

namespace Hiring

/-- An application that came in no earlier and has a greater identifier has its place behind. -/
theorem Filing.place_lt {a b : Filing} (htime : a.appliedAt ≤ b.appliedAt) (hid : a.id < b.id) :
    a.place < b.place := by
  rw [Prod.Lex.lt_iff]
  rcases lt_or_eq_of_le htime with hlt | heq
  · exact .inl hlt
  · exact .inr ⟨heq, hid⟩

namespace Office

variable {o : Office} {nextJob nextApplicant : UInt64} {start s : Store}
  {requests : List (Timestamp × Request)}

theorem reachable_of_run (empty : start = .emptyAt nextJob nextApplicant)
    (reached : s = o.run requests start) : o.Reachable s := by
  subst empty reached
  exact ⟨requests, nextJob, nextApplicant, rfl⟩

/-! ## Jobs -/

/-- The jobs that are listed. -/
def listedJobs (s : Store) : List JobPosting := sortJobs s.jobs.values

/-- What is listed are the positions that were opened. -/
theorem listedJobs_perm (empty : start = .emptyAt nextJob nextApplicant)
    (reached : s = o.run requests start) : (listedJobs s).Perm (o.openings requests start) :=
  (List.mergeSort_perm _ _).trans (jobs_perm_openings empty reached)

theorem pairwise_listedJobs (consistent : s.Consistent) :
    (listedJobs s).Pairwise fun a b => a.id < b.id :=
  pairwise_sortJobs consistent.nodup_jobs

/-- As long as six digits are enough, jobs are listed in the order in which they were opened. -/
theorem listedJobs_eq (empty : start = .emptyAt nextJob nextApplicant)
    (reached : s = o.run requests start)
    (inRange : start.nextJob.toNat + (issued .jobs (o.transcript requests start)).length ≤
      1000000) :
    listedJobs s = o.openings requests start :=
  sortJobs_eq_of_perm (jobs_perm_openings empty reached).symm (openings_increasing inRange)

/-! ## Applications -/

/-- The applications that are listed for a job. -/
def listedApplicants (s : Store) (id : JobId) : List Applicant :=
  sortApplicants (s.applicants.values.filter (·.jobId == id))

/-- What is listed for a job are the applications that came in for it. -/
theorem listedApplicants_perm (empty : start = .emptyAt nextJob nextApplicant)
    (reached : s = o.run requests start) (id : JobId) :
    ((listedApplicants s id).map Applicant.filing).Perm (o.filingsFor id requests start) := by
  have hstored := (filings_perm empty reached).filter (·.jobId == id)
  rw [List.filter_map] at hstored
  exact ((List.mergeSort_perm _ _).map _).trans hstored

/-- Applications are listed as they are stored. -/
theorem stored_of_mem_listedApplicants (consistent : s.Consistent) {id : JobId} {a : Applicant}
    (h : a ∈ listedApplicants s id) : s.applicants.get? a.id = some a := by
  have hvalues : a ∈ s.applicants.values :=
    (List.mem_filter.1 ((List.mergeSort_perm _ _).mem_iff.1 h)).1
  obtain ⟨⟨key, value⟩, hentry, rfl⟩ := List.mem_map.1 hvalues
  rw [← Keyed.get?_eq_some_iff] at hentry
  rw [consistent.applicant_id hentry]
  exact hentry

theorem pairwise_listedApplicants (consistent : s.Consistent) (id : JobId) :
    (listedApplicants s id).Pairwise fun a b => a.filing.place < b.filing.place :=
  pairwise_sortApplicants (consistent.nodup_applicants.sublist (List.filter_sublist.map _))

/-- As long as six digits are enough and the clock does not go back, the applications for a job are
listed in the order in which they came in. -/
theorem listedApplicants_eq (empty : start = .emptyAt nextJob nextApplicant)
    (reached : s = o.run requests start) {id : JobId}
    (inRange : start.nextApplicant.toNat +
      (issued .applicants (o.transcript requests start)).length ≤ 1000000)
    (clock : (o.filingsFor id requests start).Pairwise fun a b => a.appliedAt ≤ b.appliedAt) :
    (listedApplicants s id).map Applicant.filing = o.filingsFor id requests start := by
  have consistent : s.Consistent := (reachable_of_run empty reached).consistent
  have hlisted : ((listedApplicants s id).map Applicant.filing).Pairwise
      fun a b => a.place < b.place :=
    List.pairwise_map.2 (pairwise_listedApplicants consistent id)
  have hfiled : (o.filingsFor id requests start).Pairwise fun a b => a.place < b.place :=
    (clock.and ((filings_increasing inRange).filter _)).imp fun h => Filing.place_lt h.1 h.2
  exact eq_of_perm_of_pairwise_lt (listedApplicants_perm empty reached id) hlisted hfiled

/-! ## Lists -/

/-- **Lists are complete, without repetition, and in their order.**  Whatever requests came to empty
storages, in which order the storage goes through its records does not show in any answer, nor in
what later requests leave.  All positions that were opened are listed, each once, by increasing
identifiers; and for a stored job, all applications that came in for it are listed as they are
stored, each once, by increasing times and identifiers.  As long as six digits are enough for the
identifiers, jobs are listed in the order in which they were opened, and applications, if the clock
did not go back between them, in the order in which they came in. -/
theorem listings_ordered (o : Office) (nextJob nextApplicant : UInt64)
    (requests : List (Timestamp × Request)) (start s : Store)
    (empty : start = .emptyAt nextJob nextApplicant) (reached : s = o.run requests start) :
    (∀ t time r, o.handleIn t time r s = o.handle time r s) ∧
    (∀ later, o.runIn later s = o.run (later.map Prod.snd) s) ∧
    (∀ time, ∃ listed, (o.handle time .jobs s).1 = .ok listed ∧
      listed.Perm (o.openings requests start) ∧ (listed.Pairwise fun a b => a.id < b.id) ∧
      (start.nextJob.toNat + (issued .jobs (o.transcript requests start)).length ≤ 1000000 →
        listed = o.openings requests start)) ∧
    ∀ time id posting, s.jobs.get? id = some posting →
      ∃ listed, (o.handle time (.applicantsFor id) s).1 = .ok listed ∧
        (listed.map Applicant.filing).Perm (o.filingsFor id requests start) ∧
        (∀ a ∈ listed, s.applicants.get? a.id = some a) ∧
        (listed.Pairwise fun a b => a.filing.place < b.filing.place) ∧
        (start.nextApplicant.toNat + (issued .applicants (o.transcript requests start)).length ≤
            1000000 →
          ((o.filingsFor id requests start).Pairwise fun a b => a.appliedAt ≤ b.appliedAt) →
          listed.map Applicant.filing = o.filingsFor id requests start) := by
  have consistent : s.Consistent := (reachable_of_run empty reached).consistent
  refine ⟨fun t time r => handleIn_eq_handle t time consistent r, runIn_eq_run consistent,
    fun time => ?_, fun time id posting stored => ?_⟩
  · refine ⟨listedJobs s, ?_, listedJobs_perm empty reached, pairwise_listedJobs consistent,
      listedJobs_eq empty reached⟩
    exact congrArg Prod.fst (perform_jobs time s)
  · refine ⟨listedApplicants s id, ?_, listedApplicants_perm empty reached id,
      fun a ha => stored_of_mem_listedApplicants consistent ha,
      pairwise_listedApplicants consistent id, listedApplicants_eq empty reached⟩
    show ((applicantsFor id).perform time s).1 = .ok (listedApplicants s id)
    rw [perform_applicantsFor, stored]
    rfl

/-- Two positions are opened, and three applications come in, those for the first position at the
same time. -/
def atTheSameTime : List (Timestamp × Request) :=
  [(⟨2024, 5, 1, 8, 0, 0, 0⟩, .createJob ⟨"Staf", "", "", "", []⟩),
    (⟨2024, 5, 1, 8, 0, 0, 0⟩, .createJob ⟨"Kasir", "", "", "", []⟩),
    (⟨2024, 5, 2, 8, 0, 0, 0⟩,
      .apply ⟨"job-000001", "Ani", "ani@example.id", none, none, [], none, none⟩),
    (⟨2024, 5, 2, 7, 0, 0, 0⟩,
      .apply ⟨"job-000002", "Budi", "budi@example.id", none, none, [], none, none⟩),
    (⟨2024, 5, 2, 8, 0, 0, 0⟩,
      .apply ⟨"job-000001", "Citra", "citra@example.id", none, none, [], none, none⟩)]

/-- Applications that came in at the same time are listed in the order in which they came in, by a
storage that goes through its records backwards. -/
theorem listings_ordered_backwards :
    ∃ (t : Traversal) (start s : Store), (∀ s, t.applicants s = s.applicants.values.reverse) ∧
      start = .emptyAt 1 1 ∧ s = run ⟨Screener.standard⟩ atTheSameTime start ∧
      (∃ jobs, (handleIn ⟨Screener.standard⟩ t ⟨2024, 5, 3, 8, 0, 0, 0⟩ .jobs s).1 = .ok jobs ∧
        jobs.map (·.id) = ["job-000001", "job-000002"]) ∧
      ∃ listed, (handleIn ⟨Screener.standard⟩ t ⟨2024, 5, 3, 8, 0, 0, 0⟩
          (.applicantsFor "job-000001") s).1 = .ok listed ∧
        listed.map (·.id) = ["applicant-000001", "applicant-000003"] := by
  let t : Traversal := ⟨fun s => s.jobs.values.reverse, fun s => s.applicants.values.reverse,
    fun s => s.jobs.values.reverse_perm, fun s => s.applicants.values.reverse_perm⟩
  obtain ⟨halike, -, hjobs, happlicants⟩ :=
    listings_ordered ⟨Screener.standard⟩ 1 1 atTheSameTime _ _ rfl rfl
  refine ⟨t, _, _, fun _ => rfl, rfl, rfl, ?_, ?_⟩
  · obtain ⟨listed, hok, -, -, heq⟩ := hjobs ⟨2024, 5, 3, 8, 0, 0, 0⟩
    refine ⟨listed, by rw [halike, hok], ?_⟩
    rw [heq (by decide +kernel)]
    decide +kernel
  · have hstored : ((run ⟨Screener.standard⟩ atTheSameTime (.emptyAt 1 1)).jobs.get?
        "job-000001").isSome = true := by decide +kernel
    obtain ⟨posting, hposting⟩ := Option.isSome_iff_exists.1 hstored
    obtain ⟨listed, hok, -, -, -, heq⟩ := happlicants ⟨2024, 5, 3, 8, 0, 0, 0⟩ _ _ hposting
    refine ⟨listed, by rw [halike, hok], ?_⟩
    have hfilings := heq (by decide +kernel) (by decide +kernel)
    have hids := congrArg (List.map Filing.id) hfilings
    rw [List.map_map] at hids
    refine hids.trans ?_
    decide +kernel

end Office

end Hiring
