import Hiring.Office.Validation
import Mathlib.Data.List.Induction
import Mathlib.Data.List.Nodup
import Mathlib.Order.WellFounded

/-!
# What is refused, and with what

Labels are checked from the front, against the ones that came before, and the check ends at the
first fault.  What a fault is can be said of each position on its own, so the check is compared
with the first position that has one.

* `LabelFault` — what is wrong with the label at a position; it is one thing at most.
* `FirstFault` — the fault at the first position that has one.
* `checkLabels_eq_error_iff` — **the check reports the first fault.**
* `JobDraft.Fault`, `Submission.Fault` — what is reported of a draft and of a submission.
* `JobDraft.Faulty`, `JobDraft.exists_fault_iff` — something is reported of a draft exactly if its
  title or a label is blank, or two labels are equal once trimmed.
-/

set_option autoImplicit false

namespace Hiring

open Text

/-! ## Faults of labels -/

/-- What is wrong with the label at a position: it is blank, or an earlier label is the same once
both are trimmed. -/
inductive LabelFault (labels : List String) (i : Nat) : InvalidInput → Prop
  | blank {label : String} (here : labels[i]? = some label) (nothing : trim label = "") :
      LabelFault labels i (.blankLabel i)
  | repeated {label : String} (here : labels[i]? = some label) (something : trim label ≠ "")
      (earlier : trim label ∈ (labels.take i).map trim) :
      LabelFault labels i (.duplicateLabel (trim label))

/-- The fault at the first position, from `start` on, that has one. -/
def FirstFault (labels : List String) (start : Nat) (e : InvalidInput) : Prop :=
  ∃ i, start ≤ i ∧ LabelFault labels i e ∧ ∀ j, start ≤ j → j < i → ∀ e', ¬ LabelFault labels j e'

variable {labels before : List String} {i start : Nat} {e e' : InvalidInput}

/-- A label has one fault at most. -/
theorem LabelFault.unique (h : LabelFault labels i e) (h' : LabelFault labels i e') : e = e' := by
  cases h with
  | blank here nothing =>
    cases h' with
    | blank _ _ => rfl
    | repeated here' something _ =>
      rw [here, Option.some.injEq] at here'
      exact absurd (here' ▸ nothing) something
  | repeated here something _ =>
    cases h' with
    | blank here' nothing =>
      rw [here, Option.some.injEq] at here'
      exact absurd (here' ▸ nothing) something
    | repeated here' _ _ =>
      rw [here, Option.some.injEq] at here'
      rw [here']

theorem firstFault_of_fault (h : LabelFault labels start e) :
    FirstFault labels start e' ↔ e = e' := by
  constructor
  · rintro ⟨i, hi, hfault, hbefore⟩
    rcases Nat.eq_or_lt_of_le hi with rfl | hlt
    · exact h.unique hfault
    · exact absurd h (hbefore start (Nat.le_refl _) hlt e)
  · rintro rfl
    exact ⟨start, Nat.le_refl _, h, fun j hj hlt => absurd hj (Nat.not_le_of_lt hlt)⟩

theorem firstFault_of_no_fault (h : ∀ e, ¬ LabelFault labels start e) :
    FirstFault labels start e ↔ FirstFault labels (start + 1) e := by
  constructor
  · rintro ⟨i, hi, hfault, hbefore⟩
    have hne : start ≠ i := by
      rintro rfl
      exact h e hfault
    exact ⟨i, Nat.lt_of_le_of_ne hi hne, hfault, fun j hj => hbefore j (Nat.le_of_succ_le hj)⟩
  · rintro ⟨i, hi, hfault, hbefore⟩
    refine ⟨i, Nat.le_of_succ_le hi, hfault, fun j hj hlt => ?_⟩
    rcases Nat.eq_or_lt_of_le hj with rfl | hgt
    · exact h
    · exact hbefore j hgt hlt

/-- If there is a fault at all, there is a first one. -/
theorem exists_firstFault_iff :
    (∃ e, FirstFault labels 0 e) ↔ ∃ i e, LabelFault labels i e := by
  constructor
  · rintro ⟨e, i, -, hfault, -⟩
    exact ⟨i, e, hfault⟩
  · intro h
    obtain ⟨i, ⟨e, hfault⟩, hmin⟩ := WellFounded.has_min (r := (· < ·)) Nat.lt_wfRel.wf
      {i | ∃ e, LabelFault labels i e} h
    exact ⟨e, i, Nat.zero_le i, hfault, fun j _ hlt e' hj => hmin j ⟨e', hj⟩ hlt⟩

/-! ## The check -/

/-- What is wrong with the label that follows `before`. -/
theorem labelFault_append_cons_iff {label : String} {rest : List String} :
    LabelFault (before ++ label :: rest) before.length e ↔
      (trim label = "" ∧ e = .blankLabel before.length) ∨
      (trim label ≠ "" ∧ trim label ∈ before.map trim ∧ e = .duplicateLabel (trim label)) := by
  have hhere : (before ++ label :: rest)[before.length]? = some label := by simp
  have htake : (before ++ label :: rest).take before.length = before := by simp
  constructor
  · intro h
    cases h with
    | blank here nothing =>
      rw [hhere, Option.some.injEq] at here
      exact .inl ⟨here ▸ nothing, rfl⟩
    | repeated here something earlier =>
      rw [hhere, Option.some.injEq] at here
      rw [htake] at earlier
      subst here
      exact .inr ⟨something, earlier, rfl⟩
  · rintro (⟨nothing, rfl⟩ | ⟨something, earlier, rfl⟩)
    · exact .blank hhere nothing
    · exact .repeated hhere something (htake.symm ▸ earlier)

/-- **The check reports the first fault**: of the labels that follow `before`, if the labels seen so
far are those, trimmed. -/
theorem checkLabels_eq_error_iff (before : List String) {rest seen : List String}
    (hseen : ∀ text, text ∈ seen ↔ text ∈ before.map trim) :
    checkLabels before.length seen rest = .error e ↔
      FirstFault (before ++ rest) before.length e := by
  -- on the labels to come: one that is right joins those that were seen
  induction rest generalizing before seen with
  | nil =>
    refine iff_of_false (fun h => by cases h) ?_
    rintro ⟨i, hi, hfault, -⟩
    have hnone : (before ++ [])[i]? = none := by simp [hi]
    cases hfault with
    | blank here _ =>
      rw [hnone] at here
      cases here
    | repeated here _ _ =>
      rw [hnone] at here
      cases here
  | cons label rest ih =>
    simp only [checkLabels]
    by_cases nothing : trim label = ""
    · rw [if_pos nothing, Except.error.injEq]
      exact (firstFault_of_fault (labelFault_append_cons_iff.2 (.inl ⟨nothing, rfl⟩))).symm
    · rw [if_neg nothing]
      by_cases earlier : trim label ∈ seen
      · rw [if_pos earlier, Except.error.injEq]
        exact (firstFault_of_fault
          (labelFault_append_cons_iff.2 (.inr ⟨nothing, (hseen _).1 earlier, rfl⟩))).symm
      · have hright : ∀ e, ¬ LabelFault (before ++ label :: rest) before.length e := by
          intro e hfault
          rcases labelFault_append_cons_iff.1 hfault with ⟨h, -⟩ | ⟨-, h, -⟩
          · exact nothing h
          · exact earlier ((hseen _).2 h)
        have hseen' : ∀ text, text ∈ trim label :: seen ↔ text ∈ (before ++ [label]).map trim := by
          intro text
          rw [List.mem_cons, hseen, List.map_append, List.mem_append, List.map_singleton,
            List.mem_singleton, or_comm]
        rw [if_neg earlier, firstFault_of_no_fault hright]
        have hrest := ih (before ++ [label]) hseen'
        rwa [List.length_append, List.length_singleton, List.append_assoc,
          List.singleton_append] at hrest

/-- Labels each of which is not among the ones before it, once trimmed, are all different then. -/
theorem nodup_of_forall_split
    (h : ∀ before label rest, labels = before ++ label :: rest → trim label ∉ before.map trim) :
    (labels.map trim).Nodup := by
  induction labels using List.reverseRecOn with
  | nil => exact .nil
  | append_singleton labels label ih =>
    rw [List.map_append, List.map_singleton, ← List.concat_eq_append]
    refine List.Nodup.concat (h labels label [] rfl) (ih fun before label' rest hsplit => ?_)
    exact h before label' (rest ++ [label]) (by rw [hsplit, List.append_assoc, List.cons_append])

/-- There is a fault exactly if a label is blank or two labels are equal once trimmed. -/
theorem exists_labelFault_iff :
    (∃ i e, LabelFault labels i e) ↔
      (∃ label ∈ labels, trim label = "") ∨ ¬ (labels.map trim).Nodup := by
  constructor
  · rintro ⟨i, e, hfault⟩
    cases hfault with
    | blank here nothing => exact .inl ⟨_, List.mem_of_getElem? here, nothing⟩
    | @repeated label here _ earlier =>
      right
      intro hnodup
      obtain ⟨hi, here⟩ := List.getElem?_eq_some_iff.1 here
      rw [← List.take_append_drop i labels, List.map_append, List.nodup_append] at hnodup
      refine hnodup.2.2 _ earlier _ (List.mem_map_of_mem ?_) rfl
      rw [List.drop_eq_getElem_cons hi, here]
      exact .head _
  · intro h
    by_contra hnone
    -- the label that is blank, or that two positions share, has a fault where it stands last
    have hright : ∀ before label rest, labels = before ++ label :: rest →
        trim label ≠ "" ∧ trim label ∉ before.map trim := by
      rintro before label rest rfl
      have hfault : ∀ e, ¬ LabelFault (before ++ label :: rest) before.length e :=
        fun e he => hnone ⟨_, e, he⟩
      have hsomething : trim label ≠ "" := fun nothing =>
        hfault _ (labelFault_append_cons_iff.2 (.inl ⟨nothing, rfl⟩))
      exact ⟨hsomething, fun earlier =>
        hfault _ (labelFault_append_cons_iff.2 (.inr ⟨hsomething, earlier, rfl⟩))⟩
    rcases h with ⟨label, hlabel, nothing⟩ | hrepeated
    · obtain ⟨before, rest, hsplit⟩ := List.append_of_mem hlabel
      exact (hright before label rest hsplit).1 nothing
    · exact hrepeated (nodup_of_forall_split fun before label rest hsplit =>
        (hright before label rest hsplit).2)

/-! ## Drafts and submissions -/

theorem eq_ok_iff_forall_ne_error {checked : Except InvalidInput Unit} :
    checked = .ok () ↔ ∀ e, checked ≠ .error e := by
  cases checked with
  | error e => exact iff_of_false nofun fun h => h e rfl
  | ok _ => exact iff_of_true rfl fun _ => nofun

/-- What is reported of a draft: a blank title before anything else, then the first fault of the
labels. -/
inductive JobDraft.Fault (d : JobDraft) : InvalidInput → Prop
  | title (nothing : trim d.title = "") : Fault d (.missingField "title")
  | label {e : InvalidInput} (something : trim d.title ≠ "")
      (first : FirstFault (d.criteria.map (·.label)) 0 e) : Fault d e

theorem JobDraft.validate_eq_error_iff {d : JobDraft} : d.validate = .error e ↔ d.Fault e := by
  have hlabels : checkLabels 0 [] (d.criteria.map (·.label)) = .error e ↔
      FirstFault (d.criteria.map (·.label)) 0 e :=
    checkLabels_eq_error_iff [] fun _ => .rfl
  rw [validate]
  by_cases nothing : trim d.title = ""
  · rw [if_pos (allBlank_iff.2 nothing), Except.error.injEq]
    constructor
    · rintro rfl
      exact .title nothing
    · intro h
      cases h with
      | title _ => rfl
      | label something _ => exact absurd nothing something
  · rw [if_neg fun h => nothing (allBlank_iff.1 h), hlabels]
    constructor
    · exact .label nothing
    · intro h
      cases h with
      | title h => exact absurd h nothing
      | label _ first => exact first

theorem JobDraft.validate_eq_ok_iff {d : JobDraft} : d.validate = .ok () ↔ ∀ e, ¬ d.Fault e := by
  simp only [eq_ok_iff_forall_ne_error, ne_eq, validate_eq_error_iff]

/-- The title is blank, a label is blank, or two labels are equal once trimmed. -/
def JobDraft.Faulty (d : JobDraft) : Prop :=
  trim d.title = "" ∨ (∃ c ∈ d.criteria, trim c.label = "") ∨
    ¬ (d.criteria.map fun c => trim c.label).Nodup

/-- **Something is reported of a draft exactly if it is faulty.** -/
theorem JobDraft.exists_fault_iff {d : JobDraft} : (∃ e, d.Fault e) ↔ d.Faulty := by
  have hlabels : (∃ e, FirstFault (d.criteria.map (·.label)) 0 e) ↔
      (∃ c ∈ d.criteria, trim c.label = "") ∨ ¬ (d.criteria.map fun c => trim c.label).Nodup := by
    rw [exists_firstFault_iff, exists_labelFault_iff, List.map_map]
    simp only [List.mem_map, exists_exists_and_eq_and, Function.comp_def]
  rw [Faulty, ← hlabels]
  constructor
  · rintro ⟨e, hfault⟩
    cases hfault with
    | title nothing => exact .inl nothing
    | label _ first => exact .inr ⟨e, first⟩
  · intro h
    by_cases nothing : trim d.title = ""
    · exact ⟨_, .title nothing⟩
    · obtain ⟨e, first⟩ := h.resolve_left nothing
      exact ⟨e, .label nothing first⟩

/-- What is reported of a submission: the first blank field of those that have to be filled in. -/
inductive Submission.Fault (sub : Submission) : InvalidInput → Prop
  | jobId (nothing : trim sub.jobId = "") : Fault sub (.missingField "job_id")
  | name (job : trim sub.jobId ≠ "") (nothing : trim sub.name = "") :
      Fault sub (.missingField "name")
  | email (job : trim sub.jobId ≠ "") (name : trim sub.name ≠ "") (nothing : trim sub.email = "") :
      Fault sub (.missingField "email")

theorem Submission.validate_eq_error_iff {sub : Submission} :
    sub.validate = .error e ↔ sub.Fault e := by
  simp only [validate, allBlank_iff]
  constructor
  · intro h
    split at h
    · next nothing =>
      cases h
      exact .jobId nothing
    · next job =>
      split at h
      · next nothing =>
        cases h
        exact .name job nothing
      · next name =>
        split at h
        · next nothing =>
          cases h
          exact .email job name nothing
        · cases h
  · intro h
    cases h with
    | jobId nothing => rw [if_pos nothing]
    | name job nothing => rw [if_neg job, if_pos nothing]
    | email job name nothing => rw [if_neg job, if_neg name, if_pos nothing]

theorem Submission.validate_eq_ok_iff {sub : Submission} :
    sub.validate = .ok () ↔ ∀ e, ¬ sub.Fault e := by
  simp only [eq_ok_iff_forall_ne_error, ne_eq, validate_eq_error_iff]

end Hiring
