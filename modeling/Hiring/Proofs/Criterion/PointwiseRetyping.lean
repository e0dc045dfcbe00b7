import Hiring.Proofs.Criterion.Retyping
import Hiring.Proofs.Screening.Rejection
import Mathlib.Data.List.Nodup

/-!
# Retyping, answer by answer

Retyping goes through the criteria in their order and changes the map of answers at each of them, so
what becomes of an answer could depend on where the criteria stand.  It does not, as long as no two
of them have one label: each answer is then changed by one criterion at most, which sees it as it
came in, and what becomes of it can be said without a word about the others.

* `retype_eq_mapEntries` — retyping changes each answer by itself, and no label comes or goes.
* `Criterion.Asked` — a criterion of some kind asks for the answer under a label.
* `RetypedAs` — what becomes of an answer, case by case; `retypedAs_iff` says that a pass does that.
* `retype_pointwise` — **retyping is done answer by answer**, in any order of the criteria.
-/

set_option autoImplicit false

namespace Hiring

open Criterion (Kind)

variable {criteria criteria' : List Criterion} {answers : AnswerMap} {label : String}
  {a b : Answer}

/-! ## Each answer by itself -/

/-- Retyping changes each answer by the criteria for its label. -/
theorem retype_eq_mapEntries (criteria : List Criterion) (answers : AnswerMap) :
    retype criteria answers =
      answers.mapEntries fun label => Answer.retypedBy (kindsFor criteria label) := by
  refine Keyed.ext_get? fun label => ?_
  rw [get?_retype, Keyed.get?_mapEntries]

/-- **No label comes or goes.** -/
theorem keys_retype (criteria : List Criterion) (answers : AnswerMap) :
    (retype criteria answers).keys = answers.keys := by
  rw [retype_eq_mapEntries, Keyed.keys_mapEntries]

theorem kindsFor_of_unasked (h : ∀ c ∈ criteria, c.label ≠ label) :
    kindsFor criteria label = [] := by
  rw [kindsFor, List.map_eq_nil_iff, List.filter_eq_nil_iff]
  exact fun c hc hlabel => h c hc (of_decide_eq_true hlabel)

/-- An answer that no criterion asks for stays as it is. -/
theorem get?_retype_of_unasked (h : ∀ c ∈ criteria, c.label ≠ label) (answers : AnswerMap) :
    (retype criteria answers).get? label = answers.get? label := by
  rw [get?_retype, kindsFor_of_unasked h]
  cases answers.get? label <;> rfl

/-! ## What becomes of an answer -/

/-- A criterion of the kind asks for the answer under the label. -/
def Criterion.Asked (criteria : List Criterion) (label : String) (kind : Kind) : Prop :=
  ∃ c ∈ criteria, c.label = label ∧ c.kind = kind

/-- What becomes of the answer under a label, if no two criteria have one label. -/
inductive RetypedAs (criteria : List Criterion) (label : String) : Answer → Answer → Prop
  /-- No criterion asks for the answer. -/
  | unasked {a : Answer} (unasked : ∀ c ∈ criteria, c.label ≠ label) : RetypedAs criteria label a a
  /-- Nothing was entered. -/
  | nothing {a : Answer} (nothing : a = .null ∨ a = .text "") : RetypedAs criteria label a a
  /-- A number is asked for, and the answer says one, which is finite. -/
  | number {a : Answer} {x : Binary64} (asked : Criterion.Asked criteria label .number)
      (something : a ≠ .null ∧ a ≠ .text "") (reads : a.number? = some x)
      (finite : x.isFinite = true) : RetypedAs criteria label a (.number x)
  /-- A number is asked for, and the answer says none. -/
  | unread {a : Answer} (asked : Criterion.Asked criteria label .number)
      (something : a ≠ .null ∧ a ≠ .text "") (reads : a.number? = none) :
      RetypedAs criteria label a a
  /-- A text is asked for. -/
  | text {a : Answer} (asked : Criterion.Asked criteria label .text)
      (something : a ≠ .null ∧ a ≠ .text "") :
      RetypedAs criteria label a (.text (Text.trim a.toText))
  /-- Something is asked for that answers cannot be made into. -/
  | unsupported {a : Answer} {name : String}
      (asked : Criterion.Asked criteria label (.unsupported name))
      (something : a ≠ .null ∧ a ≠ .text "") : RetypedAs criteria label a a

theorem not_isBlank_iff : ¬ a.isBlank = true ↔ a ≠ .null ∧ a ≠ .text "" := by
  rw [AnswerMap.isBlank_iff, not_or]

/-- Nothing becomes of a blank answer, whatever it is asked for as. -/
theorem Answer.retypedBy_of_isBlank (h : a.isBlank = true) (kinds : List Kind) :
    a.retypedBy kinds = a := by
  induction kinds with
  | nil => rfl
  | cons kind kinds ih => rw [retypedBy_cons, retyped_of_isBlank h, ih]

/-- What becomes of an answer by one kind is one of the cases. -/
theorem Criterion.Asked.retypedAs {kind : Kind} (asked : Criterion.Asked criteria label kind)
    (a : Answer) : RetypedAs criteria label a (a.retyped kind) := by
  by_cases hblank : a.isBlank = true
  · rw [Answer.retyped_of_isBlank hblank]
    exact .nothing (AnswerMap.isBlank_iff.1 hblank)
  · have something := not_isBlank_iff.1 hblank
    cases kind with
    | number =>
      cases reads : a.number? with
      | some x =>
        rw [Answer.retyped_number_of_some reads]
        exact .number asked something reads (Answer.isFinite_of_number? reads)
      | none =>
        rw [Answer.retyped_number_of_none reads]
        exact .unread asked something reads
    | text =>
      rw [Answer.retyped_text hblank]
      exact .text asked something
    | unsupported name =>
      rw [Answer.retyped_unsupported]
      exact .unsupported asked something

section Distinct

variable (distinct : (criteria.map (·.label)).Nodup)

include distinct

/-- The kinds that are asked for under a label are a single one. -/
theorem Criterion.Asked.kindsFor_eq {kind : Kind} (asked : Criterion.Asked criteria label kind) :
    kindsFor criteria label = [kind] := by
  obtain ⟨c, hc, rfl, rfl⟩ := asked
  exact kindsFor_of_mem distinct hc

theorem retypedAs_retypedBy (a : Answer) :
    RetypedAs criteria label a (a.retypedBy (kindsFor criteria label)) := by
  by_cases hasked : ∃ c ∈ criteria, c.label = label
  · obtain ⟨c, hc, hlabel⟩ := hasked
    have asked : Criterion.Asked criteria label c.kind := ⟨c, hc, hlabel, rfl⟩
    rw [asked.kindsFor_eq distinct]
    exact asked.retypedAs a
  · have unasked : ∀ c ∈ criteria, c.label ≠ label := fun c hc hlabel => hasked ⟨c, hc, hlabel⟩
    rw [kindsFor_of_unasked unasked]
    exact .unasked unasked

/-- No two cases contradict each other. -/
theorem RetypedAs.eq_retypedBy (h : RetypedAs criteria label a b) :
    b = a.retypedBy (kindsFor criteria label) := by
  cases h with
  | unasked unasked =>
    rw [kindsFor_of_unasked unasked, Answer.retypedBy_nil]
  | nothing nothing =>
    exact (Answer.retypedBy_of_isBlank (AnswerMap.isBlank_iff.2 nothing) _).symm
  | number asked _ reads _ =>
    rw [asked.kindsFor_eq distinct]
    exact (Answer.retyped_number_of_some reads).symm
  | unread asked _ reads =>
    rw [asked.kindsFor_eq distinct]
    exact (Answer.retyped_number_of_none reads).symm
  | text asked something =>
    rw [asked.kindsFor_eq distinct]
    exact (Answer.retyped_text (not_isBlank_iff.2 something)).symm
  | @unsupported name asked _ =>
    rw [asked.kindsFor_eq distinct]
    exact (Answer.retyped_unsupported name).symm

/-- A pass makes of an answer what the cases say. -/
theorem retypedAs_iff :
    RetypedAs criteria label a b ↔ a.retypedBy (kindsFor criteria label) = b := by
  constructor
  · intro h
    exact (h.eq_retypedBy distinct).symm
  · rintro rfl
    exact retypedAs_retypedBy distinct a

end Distinct

/-! ## The order of the criteria -/

/-- Criteria in another order have the same kinds for a label. -/
theorem kindsFor_perm (h : criteria'.Perm criteria) (label : String) :
    (kindsFor criteria' label).Perm (kindsFor criteria label) := (h.filter _).map _

/-- If no two criteria have one label, one criterion at most asks for an answer. -/
theorem length_filter_label_le (distinct : (criteria.map (·.label)).Nodup) (label : String) :
    (criteria.filter (·.label = label)).length ≤ 1 := by
  have hcount := List.nodup_iff_count_le_one.1 distinct label
  rw [List.count, List.countP_map, List.countP_eq_length_filter] at hcount
  exact hcount

/-- **The order of the criteria does not matter**, if no two of them have one label. -/
theorem retype_perm (distinct : (criteria.map (·.label)).Nodup) (h : criteria'.Perm criteria)
    (answers : AnswerMap) : retype criteria' answers = retype criteria answers := by
  refine Keyed.ext_get? fun label => ?_
  have hkinds : kindsFor criteria' label = kindsFor criteria label := by
    have hperm := kindsFor_perm h label
    have hle : (kindsFor criteria label).length ≤ 1 := by
      rw [kindsFor, List.length_map]
      exact length_filter_label_le distinct label
    cases hkinds : kindsFor criteria label with
    | nil => rwa [hkinds, List.perm_nil] at hperm
    | cons kind rest =>
      rw [hkinds] at hperm hle
      have hrest : rest = [] :=
        List.length_eq_zero_iff.1 (Nat.le_zero.1 (Nat.le_of_succ_le_succ hle))
      rw [hrest] at hperm ⊢
      exact List.perm_singleton.1 hperm
  rw [get?_retype, get?_retype, hkinds]

/-! ## The whole pass -/

/-- **Retyping is done answer by answer.**  No label comes or goes, and an answer that no criterion
asks for stays as it is, also where labels are repeated.  If no two criteria have one label, what
stands under a label afterwards is what becomes of the answer that stood there, whatever the others
are, and the order of the criteria does not matter. -/
theorem retype_pointwise (criteria : List Criterion) (answers : AnswerMap) :
    (retype criteria answers).keys = answers.keys ∧
    (∀ label, (∀ c ∈ criteria, c.label ≠ label) →
      (retype criteria answers).get? label = answers.get? label) ∧
    ((criteria.map (·.label)).Nodup →
      (∀ label b, (retype criteria answers).get? label = some b ↔
        ∃ a, answers.get? label = some a ∧ RetypedAs criteria label a b) ∧
      ∀ criteria', criteria'.Perm criteria →
        retype criteria' answers = retype criteria answers) := by
  refine ⟨keys_retype criteria answers, fun label unasked => get?_retype_of_unasked unasked answers,
    fun distinct => ⟨fun label b => ?_, fun criteria' h => retype_perm distinct h answers⟩⟩
  rw [get?_retype, Option.map_eq_some_iff]
  simp only [retypedAs_iff distinct]

/-- A number that comes as a text, a list where a text is asked for, and an answer that no criterion
asks for; the criteria can stand the other way round. -/
theorem retype_pointwise_list :
    ∃ criteria answers,
      criteria = [⟨"gaji", .number, ">=3", true⟩, ⟨"gelar", .text, "S1", true⟩] ∧
      answers = (Keyed.ofList [("catatan", .text " bebas "), ("gaji", .text " 5.0 "),
        ("gelar", .list [.text " S1", .text "S2 "])] : AnswerMap) ∧
      (criteria.map (·.label)).Nodup ∧
      (retype criteria answers).keys = ["catatan", "gaji", "gelar"] ∧
      (retype criteria answers).get? "catatan" = some (.text " bebas ") ∧
      (retype criteria answers).get? "gaji" = some (.number (.ofInt 5)) ∧
      (retype criteria answers).get? "gelar" = some (.text "S1,S2") ∧
      retype criteria.reverse answers = retype criteria answers := by
  refine ⟨_, _, rfl, rfl, by decide, ?_⟩
  obtain ⟨hkeys, hunasked, hdistinct⟩ := retype_pointwise
    [⟨"gaji", .number, ">=3", true⟩, ⟨"gelar", .text, "S1", true⟩]
    (.ofList [("catatan", .text " bebas "), ("gaji", .text " 5.0 "),
      ("gelar", .list [.text " S1", .text "S2 "])])
  obtain ⟨hpointwise, hperm⟩ := hdistinct (by decide)
  refine ⟨hkeys, hunasked "catatan" (by decide), ?_, ?_, hperm _ (List.reverse_perm _)⟩
  · exact (hpointwise _ _).2 ⟨_, rfl, .number ⟨_, .head _, rfl, rfl⟩ (by simp)
      (by decide +kernel) (by decide +kernel)⟩
  · exact (hpointwise _ _).2 ⟨_, rfl, .text ⟨_, .tail _ (.head _), rfl, rfl⟩ (by simp)⟩

end Hiring
