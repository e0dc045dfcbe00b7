import Hiring.Proofs.Criterion.PointwiseRetyping
import Hiring.Proofs.Office.Requests
import Hiring.Proofs.Office.Validation

/-!
# The labels of stored positions

Labels are checked once, when a position is opened, and they are compared without the blanks around
them; the answers of applicants are looked up under the labels as written.  So two things have to
come together before it can be said that one criterion at most asks for an answer: labels that
differ once trimmed differ as written, and nothing gets into the storage but what was checked.

* `WellLabelled` — no label is blank, and no two are equal once trimmed.
* `JobDraft.validate_eq_ok_iff_wellLabelled` — with a title, this is all that a draft needs.
* `JobDraft.fault_iff` — what is reported otherwise: a blank title, or else the first fault.
* `Office.Reachable.wellLabelled` — **every stored position is well labelled.**
* `Office.labels_checked` — all of this together.
-/

set_option autoImplicit false

namespace Hiring

open Text

/-- No label is blank, and no two are equal once trimmed. -/
structure WellLabelled (criteria : List Criterion) : Prop where
  something : ∀ c ∈ criteria, trim c.label ≠ ""
  distinct : (criteria.map fun c => trim c.label).Nodup

/-- Labels that differ once trimmed differ as written. -/
theorem WellLabelled.nodup_labels {criteria : List Criterion} (h : WellLabelled criteria) :
    (criteria.map (·.label)).Nodup := by
  have htrimmed := h.distinct
  rw [← Function.comp_def trim, ← List.map_map] at htrimmed
  exact htrimmed.of_map

/-! ## Drafts -/

namespace JobDraft

variable {d : JobDraft} {e : InvalidInput}

/-- **A draft is accepted if it has a title and is well labelled**, and only then. -/
theorem validate_eq_ok_iff_wellLabelled :
    d.validate = .ok () ↔ trim d.title ≠ "" ∧ WellLabelled d.criteria := by
  rw [validate_eq_ok_iff, ← not_exists, exists_fault_iff, Faulty]
  constructor
  · intro h
    refine ⟨fun nothing => h (.inl nothing), ⟨fun c hc nothing => ?_, ?_⟩⟩
    · exact h (.inr (.inl ⟨c, hc, nothing⟩))
    · by_contra hrepeated
      exact h (.inr (.inr hrepeated))
  · rintro ⟨something, labels⟩ (nothing | ⟨c, hc, nothing⟩ | hrepeated)
    · exact something nothing
    · exact labels.something c hc nothing
    · exact hrepeated labels.distinct

/-- A blank title is reported before anything else, then the first fault of the labels. -/
theorem fault_iff : d.Fault e ↔
    (trim d.title = "" ∧ e = .missingField "title") ∨
    (trim d.title ≠ "" ∧ FirstFault (d.criteria.map (·.label)) 0 e) := by
  constructor
  · intro h
    cases h with
    | title nothing => exact .inl ⟨nothing, rfl⟩
    | label something first => exact .inr ⟨something, first⟩
  · rintro (⟨nothing, rfl⟩ | ⟨something, first⟩)
    · exact .title nothing
    · exact .label something first

end JobDraft

/-! ## Stored positions -/

namespace Office

variable {o : Office} {time : Timestamp} {s s' : Store} {r : Request}

/-- Opening a position is refused as invalid input exactly if the check refuses the draft. -/
theorem createJob_invalid_iff {draft : JobDraft} {e : InvalidInput} :
    ((createJob draft).perform time s).1 = .error (.invalid e) ↔ draft.validate = .error e := by
  rw [perform_createJob]
  cases draft.validate with
  | error e' => simp
  | ok _ =>
    simp only [reduceCtorEq, iff_false]
    split <;> simp

/-- All stored positions are well labelled. -/
def AllWellLabelled (s : Store) : Prop :=
  ∀ id job, s.jobs.get? id = some job → WellLabelled job.criteria

/-- A position gets into the storage after its draft was checked, and is not changed there. -/
theorem Effect.allWellLabelled (he : o.Effect time s r s') (h : AllWellLabelled s) :
    AllWellLabelled s' := by
  cases he with
  | @posted draft valid _ =>
    intro id job listed
    rw [Store.post_jobs, Keyed.get?_insert] at listed
    split at listed
    · rw [Option.some.injEq] at listed
      rw [← listed]
      exact (JobDraft.validate_eq_ok_iff_wellLabelled.1 valid).2
    · exact h id job listed
  | kept => exact h
  | jobRefused => exact h
  | applicantRefused => exact h
  | enrolled _ _ _ => exact h
  | rescreened _ _ => exact h
  | moved _ => exact h

/-- **Every stored position is well labelled.** -/
theorem Reachable.wellLabelled (reached : o.Reachable s) : AllWellLabelled s := by
  refine reached.invariant (fun nextJob nextApplicant id job listed => ?_)
    fun he h => he.allWellLabelled h
  cases listed

/-- **Labels are checked, and stay as they were checked.**  A draft is accepted exactly if it has a
title, none of its labels is blank, and no two of them are equal once trimmed.  Of a draft that is
not, a blank title is reported first, then the first label that is blank or equal to an earlier one:
its position in the first case, the trimmed label in the second.  So in every storage that requests
lead to, the labels of a position are not blank and all different, also as written, and one
criterion at most asks for an answer. -/
theorem labels_checked (o : Office) :
    (∀ draft : JobDraft, draft.validate = .ok () ↔
      trim draft.title ≠ "" ∧ (∀ c ∈ draft.criteria, trim c.label ≠ "") ∧
      (draft.criteria.map fun c => trim c.label).Nodup) ∧
    (∀ (draft : JobDraft) e, draft.validate = .error e ↔
      (trim draft.title = "" ∧ e = .missingField "title") ∨
      (trim draft.title ≠ "" ∧ FirstFault (draft.criteria.map (·.label)) 0 e)) ∧
    (∀ time s draft e, (o.handle time (.createJob draft) s).1 = .error (.invalid e) ↔
      draft.validate = .error e) ∧
    ∀ s, o.Reachable s → ∀ id job, s.jobs.get? id = some job →
      (∀ c ∈ job.criteria, trim c.label ≠ "") ∧
      (job.criteria.map fun c => trim c.label).Nodup ∧ (job.criteria.map (·.label)).Nodup ∧
      ∀ label, (job.criteria.filter (·.label = label)).length ≤ 1 := by
  refine ⟨fun draft => ?_, fun draft e => ?_, fun time s draft e => createJob_invalid_iff,
    fun s reached id job listed => ?_⟩
  · rw [JobDraft.validate_eq_ok_iff_wellLabelled]
    exact and_congr_right fun _ => ⟨fun h => ⟨h.something, h.distinct⟩, fun h => ⟨h.1, h.2⟩⟩
  · rw [JobDraft.validate_eq_error_iff, JobDraft.fault_iff]
  · have labels := reached.wellLabelled id job listed
    exact ⟨labels.something, labels.distinct, labels.nodup_labels,
      length_filter_label_le labels.nodup_labels⟩

/-- A draft whose second label is blank and whose third label repeats the first one with blanks
around it; and a position that is open, with a label that is stored with its blanks. -/
theorem labels_checked_blanks :
    JobDraft.validate ⟨"Staf", "", "", "", [⟨"gelar", .text, "S1", true⟩, ⟨" ", .text, "", false⟩,
      ⟨" gelar ", .text, "S2", true⟩]⟩ = .error (.blankLabel 1) ∧
    ∃ s job, s = run ⟨Screener.standard⟩ [(⟨2024, 5, 1, 8, 0, 0, 0⟩, .createJob ⟨"Staf", "", "", "",
        [⟨" gelar ", .text, "S1", true⟩, ⟨"gaji", .number, ">=3", false⟩]⟩)] (.emptyAt 1 1) ∧
      s.jobs.get? "job-000001" = some job ∧
      (job.criteria.map (·.label)).Nodup ∧
      (job.criteria.filter (·.label = " gelar ")).length ≤ 1 := by
  obtain ⟨-, hreports, -, hstored⟩ := labels_checked ⟨Screener.standard⟩
  constructor
  · refine (hreports _ _).2 (.inr ⟨by decide, 1, Nat.zero_le 1, .blank rfl (by decide), ?_⟩)
    intro j _ hj e hfault
    obtain rfl : j = 0 := Nat.lt_one_iff.1 hj
    cases hfault with
    | blank here nothing =>
      cases here
      exact absurd nothing (by decide)
    | repeated _ _ earlier => cases earlier
  · have hreached : Reachable ⟨Screener.standard⟩ (run ⟨Screener.standard⟩
        [(⟨2024, 5, 1, 8, 0, 0, 0⟩, .createJob ⟨"Staf", "", "", "",
          [⟨" gelar ", .text, "S1", true⟩, ⟨"gaji", .number, ">=3", false⟩]⟩)] (.emptyAt 1 1)) :=
      ⟨_, 1, 1, rfl⟩
    obtain ⟨-, -, hnodup, hone⟩ := hstored _ hreached "job-000001" _ rfl
    exact ⟨_, _, rfl, rfl, hnodup, hone _⟩

end Office

end Hiring
