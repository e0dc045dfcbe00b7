import Hiring.Criterion.Retyping
import Hiring.Proofs.Answer.Reading

/-!
# Retyping twice

Retyping is meant to settle the answers: done a second time it should change nothing.  Several
criteria may have one label, so an answer can be retyped several times in one pass, as a number and
as a text in any order.  It is settled after that, with one exception.  A list says no number, but
its text may: a criterion for a number leaves the list alone, a criterion for a text that follows
makes it a text, and only the second pass sees the number in it.

* `Answer.retypedBy`, `kindsFor` — an answer retyped by several kinds, and the kinds that the
  criteria have for a label; `get?_retype` says that a pass does no more than that.
* `Answer.number?_retyped` — retyping keeps the number that an answer says.
* `Answer.Numeral` — lists whose text is a number that is written in another way than the program
  writes it.
* `NumbersThenTexts` — a label is asked for as a number first, and then as a text.
* `Answer.retypedBy_retypedBy_iff`, `retype_retype_iff` — **the exception is the only one**, for a
  single answer and for all answers; `retype_retype_of_nodup` says that it needs a repeated label.
-/

set_option autoImplicit false

namespace Hiring

open Criterion (Kind)
open Binary64 (finiteOfText?)

/-! ## One answer, one kind -/

namespace Answer

variable {a : Answer} {x : Binary64}

@[simp] theorem retyped_unsupported (name : String) : a.retyped (.unsupported name) = a := by
  simp [retyped]

theorem retyped_number_of_some (h : a.number? = some x) : a.retyped .number = .number x := by
  simp only [retyped, if_neg (not_isBlank_of_number? h), h]

theorem retyped_number_of_none (h : a.number? = none) : a.retyped .number = a := by
  simp only [retyped, h, ite_self]

theorem retyped_text (h : ¬ a.isBlank = true) :
    a.retyped .text = .text (Text.trim a.toText) := by
  simp only [retyped, if_neg h]

theorem retyped_text_text (a : Answer) : (a.retyped .text).retyped .text = a.retyped .text := by
  by_cases hb : a.isBlank = true
  · simp only [retyped_of_isBlank hb]
  · rw [retyped_text hb]
    by_cases ht : (Answer.text (Text.trim a.toText)).isBlank = true
    · exact retyped_of_isBlank ht
    · rw [retyped_text ht, toText, Text.trim_trim]

/-- The text of an answer says what reading it without outer blanks says. -/
theorem number?_retyped_text (h : ¬ a.isBlank = true) :
    (a.retyped .text).number? = finiteOfText? (Text.trim a.toText) := by
  rw [retyped_text h, number?, Text.trim_trim]

/-- **Retyping keeps the number that an answer says.** -/
theorem number?_retyped (h : a.number? = some x) (kind : Kind) :
    (a.retyped kind).number? = some x := by
  cases kind with
  | number =>
    rw [retyped_number_of_some h]
    exact number?_number (isFinite_of_number? h)
  | text =>
    rw [number?_retyped_text (not_isBlank_of_number? h)]
    exact finiteOfText?_toText h
  | unsupported name => rwa [retyped_unsupported]

/-! ## One answer, several kinds -/

/-- The answer in the types of several fields, one after the other. -/
def retypedBy (kinds : List Kind) (a : Answer) : Answer :=
  kinds.foldl (fun a kind => a.retyped kind) a

@[simp] theorem retypedBy_nil (a : Answer) : a.retypedBy [] = a := rfl

@[simp] theorem retypedBy_cons (kind : Kind) (kinds : List Kind) (a : Answer) :
    a.retypedBy (kind :: kinds) = (a.retyped kind).retypedBy kinds := rfl

theorem retypedBy_append (first second : List Kind) (a : Answer) :
    a.retypedBy (first ++ second) = (a.retypedBy first).retypedBy second := List.foldl_append

theorem number?_retypedBy (kinds : List Kind) (h : a.number? = some x) :
    (a.retypedBy kinds).number? = some x := by
  induction kinds generalizing a with
  | nil => exact h
  | cons kind kinds ih => exact ih (number?_retyped h kind)

/-- Once an answer is asked for as a number, nothing but its number counts. -/
theorem retypedBy_congr {b : Answer} {kinds : List Kind} (hk : Kind.number ∈ kinds)
    (ha : a.number? = some x) (hb : b.number? = some x) :
    a.retypedBy kinds = b.retypedBy kinds := by
  induction kinds generalizing a b with
  | nil => cases hk
  | cons kind kinds ih =>
    rcases List.mem_cons.1 hk with rfl | hk
    · simp only [retypedBy_cons, retyped_number_of_some ha, retyped_number_of_some hb]
    · exact ih hk (number?_retyped ha kind) (number?_retyped hb kind)

theorem retypedBy_number {kinds : List Kind} (hk : Kind.text ∉ kinds) (hx : x.isFinite = true) :
    (number x).retypedBy kinds = .number x := by
  induction kinds with
  | nil => rfl
  | cons kind kinds ih =>
    rw [List.mem_cons, not_or] at hk
    obtain ⟨hkind, hkinds⟩ := hk
    rw [retypedBy_cons]
    cases kind with
    | number =>
      rw [retyped_number_of_some (number?_number hx)]
      exact ih hkinds
    | text => exact absurd rfl hkind
    | unsupported name =>
      rw [retyped_unsupported]
      exact ih hkinds

/-- An answer that is asked for as a number in vain can only become its text. -/
theorem retypedBy_of_unread {kinds : List Kind}
    (h : Kind.number ∈ kinds →
      a.number? = none ∧ (Kind.text ∈ kinds → (a.retyped .text).number? = none)) :
    a.retypedBy kinds = if Kind.text ∈ kinds then a.retyped .text else a := by
  induction kinds generalizing a with
  | nil => simp
  | cons kind kinds ih =>
    rw [retypedBy_cons]
    cases kind with
    | number =>
      obtain ⟨hnone, htext⟩ := h (.head _)
      rw [retyped_number_of_none hnone, ih fun _ => ⟨hnone, fun ht => htext (.tail _ ht)⟩]
      simp
    | text =>
      rw [ih fun hk => ⟨(h (.tail _ hk)).2 (.head _), fun _ => by
        rw [retyped_text_text]
        exact (h (.tail _ hk)).2 (.head _)⟩]
      simp [retyped_text_text]
    | unsupported name =>
      rw [retyped_unsupported, ih fun hk => ⟨(h (.tail _ hk)).1, fun ht =>
        (h (.tail _ hk)).2 (.tail _ ht)⟩]
      simp

/-! ## Twice -/

/-- What an answer says as a number does not change, so that it is settled. -/
theorem retypedBy_retypedBy_of_some (kinds : List Kind) (h : a.number? = some x) :
    (a.retypedBy kinds).retypedBy kinds = a.retypedBy kinds := by
  by_cases hk : Kind.number ∈ kinds
  · exact retypedBy_congr hk (number?_retypedBy kinds h) h
  · have hkeep (b : Answer) :
        b.retypedBy kinds = if Kind.text ∈ kinds then b.retyped .text else b :=
      retypedBy_of_unread fun hn => absurd hn hk
    rw [hkeep, hkeep]
    split
    · exact retyped_text_text a
    · rfl

theorem retypedBy_retypedBy_of_unread {kinds : List Kind} (hnone : a.number? = none)
    (htext : Kind.text ∈ kinds → (a.retyped .text).number? = none) :
    (a.retypedBy kinds).retypedBy kinds = a.retypedBy kinds := by
  rw [retypedBy_of_unread fun _ => ⟨hnone, htext⟩]
  split
  · next hk =>
    rw [retypedBy_of_unread fun _ => ⟨htext hk, fun _ => by rw [retyped_text_text]; exact htext hk⟩,
      if_pos hk, retyped_text_text]
  · next hk => rw [retypedBy_of_unread fun _ => ⟨hnone, fun h => absurd h hk⟩, if_neg hk]

/-- A list whose text is a number that is written in another way than the program writes it. -/
def Numeral (a : Answer) : Prop :=
  ∃ items x, a = .list items ∧ finiteOfText? (Text.trim a.toText) = some x ∧
    x.text ≠ Text.trim a.toText

end Answer

/-- There are criteria for a number and criteria for a text, and no criterion for a number comes
after one for a text. -/
def NumbersThenTexts (kinds : List Kind) : Prop :=
  Kind.number ∈ kinds ∧ Kind.text ∈ kinds ∧
    kinds.Pairwise fun earlier later => ¬ (earlier = .text ∧ later = .number)

/-- The first criterion for a text parts the others. -/
theorem numbersThenTexts_append_cons {before after : List Kind} (hbefore : Kind.text ∉ before) :
    NumbersThenTexts (before ++ .text :: after) ↔ Kind.number ∈ before ∧ Kind.number ∉ after := by
  rw [NumbersThenTexts, List.pairwise_append, List.pairwise_cons]
  constructor
  · rintro ⟨hnumber, -, -, ⟨hafter, -⟩, -⟩
    have hno : Kind.number ∉ after := fun h => hafter _ h ⟨rfl, rfl⟩
    rcases List.mem_append.1 hnumber with h | h
    · exact ⟨h, hno⟩
    · rcases List.mem_cons.1 h with h | h
      · cases h
      · exact absurd h hno
  · rintro ⟨hnumber, hafter⟩
    refine ⟨List.mem_append_left _ hnumber, List.mem_append_right _ (.head _), ?_, ⟨?_, ?_⟩, ?_⟩
    · exact List.pairwise_of_forall_mem_list fun k hk _ _ h => hbefore (h.1 ▸ hk)
    · exact fun k hk h => hafter (h.2 ▸ hk)
    · exact List.pairwise_of_forall_mem_list fun _ _ k hk h => hafter (h.2 ▸ hk)
    · exact fun k hk _ _ h => hbefore (h.1 ▸ hk)

namespace Answer

variable {a : Answer} {x : Binary64}

/-- The text of a list, asked for as a number and then as a text, is the number as the program
writes it. -/
theorem retypedBy_text_of_numbersThenTexts {before after : List Kind} {t : Answer}
    (ht : t.number? = some x) (hbefore : Kind.text ∉ before) (hnumber : Kind.number ∈ before)
    (hafter : Kind.number ∉ after) :
    t.retypedBy (before ++ .text :: after) = .text x.text := by
  have hx : x.isFinite = true := isFinite_of_number? ht
  have hread : (number x).number? = some x := number?_number hx
  have htext : (number x).retyped .text = .text x.text := by
    rw [retyped_text (not_isBlank_of_number? hread), toText, Binary64.trim_text]
  rw [retypedBy_append, retypedBy_cons, retypedBy_congr hnumber ht hread,
    retypedBy_number hbefore hx, retypedBy_of_unread fun h => absurd h hafter, retyped_text_text,
    htext, ite_self]

/-- A list whose text says a number, asked for as a text: it is settled unless it was asked for as
a number before, and never after, and the number is written in another way. -/
theorem retypedBy_retypedBy_of_reads {before after : List Kind} (hnone : a.number? = none)
    (hread : (a.retyped .text).number? = some x) (hbefore : Kind.text ∉ before) :
    (a.retypedBy (before ++ .text :: after)).retypedBy (before ++ .text :: after) =
        a.retypedBy (before ++ .text :: after) ↔
      ¬ (Kind.number ∈ before ∧ Kind.number ∉ after ∧ .text x.text ≠ a.retyped .text) := by
  have hfirst : a.retypedBy (before ++ .text :: after) = (a.retyped .text).retypedBy after := by
    rw [retypedBy_append, retypedBy_cons,
      retypedBy_of_unread fun _ => ⟨hnone, fun h => absurd h hbefore⟩, if_neg hbefore]
  by_cases hafter : Kind.number ∈ after
  -- The first pass has already made a number of the text, and from there only the number counts.
  · refine iff_of_true ?_ fun h => h.2.1 hafter
    rw [hfirst, retypedBy_append, retypedBy_cons]
    have hagain := number?_retypedBy before (number?_retypedBy after hread)
    exact retypedBy_congr hafter (number?_retyped hagain .text) hread
  · have htexts : (a.retyped .text).retypedBy after = a.retyped .text := by
      rw [retypedBy_of_unread fun h => absurd h hafter, retyped_text_text, ite_self]
    rw [hfirst, htexts]
    by_cases hnumber : Kind.number ∈ before
    · rw [retypedBy_text_of_numbersThenTexts hread hbefore hnumber hafter]
      simp [hnumber, hafter]
    · refine iff_of_true ?_ fun h => hnumber h.1
      rw [retypedBy_append, retypedBy_cons,
        retypedBy_of_unread fun h => absurd h hnumber, if_neg hbefore, retyped_text_text, htexts]

/-- **An answer is settled after one pass, with one exception.** -/
theorem retypedBy_retypedBy_iff (kinds : List Kind) (a : Answer) :
    (a.retypedBy kinds).retypedBy kinds = a.retypedBy kinds ↔
      ¬ (NumbersThenTexts kinds ∧ a.Numeral) := by
  cases hnone : a.number? with
  | some x =>
    refine iff_of_true (retypedBy_retypedBy_of_some kinds hnone) ?_
    rintro ⟨-, items, y, rfl, -⟩
    cases hnone
  | none =>
    cases hread : (a.retyped .text).number? with
    | none =>
      refine iff_of_true (retypedBy_retypedBy_of_unread hnone fun _ => hread) ?_
      rintro ⟨-, items, y, rfl, hy, -⟩
      rw [number?_retyped_text (by simp [isBlank]), hy] at hread
      cases hread
    | some x =>
      have hblank : ¬ a.isBlank = true := fun hb => by
        rw [retyped_of_isBlank hb, hnone] at hread
        cases hread
      rw [number?_retyped_text hblank] at hread
      obtain ⟨items, rfl⟩ := eq_list_of_reads hnone hread
      have hnumeral : (list items).Numeral ↔
          (Answer.text x.text ≠ (list items).retyped .text) := by
        rw [retyped_text hblank, Ne, Answer.text.injEq]
        constructor
        · rintro ⟨-, y, -, hy, hne⟩
          rw [hread, Option.some.injEq] at hy
          rwa [hy]
        · exact fun hne => ⟨items, x, rfl, hread, hne⟩
      by_cases hk : Kind.text ∈ kinds
      · obtain ⟨before, after, rfl, hbefore⟩ := List.eq_append_cons_of_mem hk
        rw [retypedBy_retypedBy_of_reads hnone (by rwa [number?_retyped_text hblank]) hbefore,
          numbersThenTexts_append_cons hbefore, hnumeral, and_assoc]
      · exact iff_of_true
          (retypedBy_retypedBy_of_unread hnone fun h => absurd h hk) fun h => hk h.1.2.1

end Answer

/-! ## All answers -/

/-- The kinds of the criteria for a label, in their order. -/
def kindsFor (criteria : List Criterion) (label : String) : List Kind :=
  (criteria.filter (·.label = label)).map (·.kind)

/-- **A pass retypes each answer by the criteria for its label.** -/
theorem get?_retype (criteria : List Criterion) (answers : AnswerMap) (label : String) :
    (retype criteria answers).get? label =
      (answers.get? label).map (Answer.retypedBy (kindsFor criteria label)) := by
  induction criteria generalizing answers with
  | nil =>
    show answers.get? label = (answers.get? label).map id
    rw [Option.map_id_fun, id]
  | cons c criteria ih =>
    have hfirst : retype (c :: criteria) answers = retype criteria (c.retype answers) := rfl
    rw [hfirst, ih, Criterion.get?_retype]
    by_cases hl : c.label = label
    · have hkinds : kindsFor (c :: criteria) label = c.kind :: kindsFor criteria label := by
        simp [kindsFor, hl]
      rw [hkinds, if_pos hl.symm, Option.map_map]
      rfl
    · have hkinds : kindsFor (c :: criteria) label = kindsFor criteria label := by
        simp [kindsFor, hl]
      rw [hkinds, if_neg (Ne.symm hl)]

/-- If no two criteria have one label, the criteria for a label are a single one. -/
theorem kindsFor_of_mem {criteria : List Criterion} {c : Criterion}
    (distinct : (criteria.map (·.label)).Nodup) (hc : c ∈ criteria) :
    kindsFor criteria c.label = [c.kind] := by
  induction criteria with
  | nil => cases hc
  | cons d criteria ih =>
    obtain ⟨hfresh, hrest⟩ := List.nodup_cons.1 distinct
    rcases List.mem_cons.1 hc with rfl | hc
    · have hnone : criteria.filter (·.label = c.label) = [] := by
        rw [List.filter_eq_nil_iff]
        intro d hd hlabel
        exact hfresh (List.mem_map.2 ⟨d, hd, of_decide_eq_true hlabel⟩)
      simp [kindsFor, hnone]
    · have hne : d.label ≠ c.label := fun h =>
        hfresh (List.mem_map.2 ⟨c, hc, h.symm⟩)
      rw [← ih hrest hc]
      simp [kindsFor, hne]

/-- Answers that are settled one by one are settled together. -/
theorem retype_retype_of_settled {criteria : List Criterion} {answers : AnswerMap}
    (h : ∀ label a, answers.get? label = some a →
      (a.retypedBy (kindsFor criteria label)).retypedBy (kindsFor criteria label) =
        a.retypedBy (kindsFor criteria label)) :
    retype criteria (retype criteria answers) = retype criteria answers := by
  refine Keyed.ext_get? fun label => ?_
  simp only [get?_retype]
  cases ha : answers.get? label with
  | none => rfl
  | some a => exact congrArg some (h label a ha)

/-- If no two criteria have one label, retyping twice is retyping once. -/
theorem retype_retype_of_nodup {criteria : List Criterion}
    (distinct : (criteria.map (·.label)).Nodup) (answers : AnswerMap) :
    retype criteria (retype criteria answers) = retype criteria answers := by
  refine retype_retype_of_settled fun label a _ => ?_
  rw [Answer.retypedBy_retypedBy_iff]
  rintro ⟨⟨hnumber, htext, -⟩, -⟩
  obtain ⟨c, hc, hnumber'⟩ := List.mem_map.1 hnumber
  obtain ⟨hc, hlabel⟩ := List.mem_filter.1 hc
  rw [← of_decide_eq_true hlabel, kindsFor_of_mem distinct hc] at htext
  have hkind : c.kind = .text := (List.mem_singleton.1 htext).symm
  rw [hkind] at hnumber'
  cases hnumber'

/-- **Retyping twice is retyping once, with one exception.**  The answers are settled after one
pass unless one of them is a list whose text is a number that the program writes in another way,
and the criteria for its label ask for a number first and then for a text. -/
theorem retype_retype_iff (criteria : List Criterion) (answers : AnswerMap) :
    retype criteria (retype criteria answers) = retype criteria answers ↔
      ∀ label a, answers.get? label = some a →
        ¬ (NumbersThenTexts (kindsFor criteria label) ∧ a.Numeral) := by
  simp only [← Answer.retypedBy_retypedBy_iff]
  constructor
  · intro h label a ha
    have hlabel := congrArg (·.get? label) h
    simpa only [get?_retype, ha, Option.map_some, Option.some.injEq] using hlabel
  · exact retype_retype_of_settled

/-- **The exception is there.**  One pass leaves the text of the list, and the next one the number
as the program writes it. -/
theorem retype_retype_ne :
    ((retype [⟨"gaji", .number, "", false⟩, ⟨"gaji", .text, "", false⟩]
      (.ofList [("gaji", .list [.text "5.0"])])).get? "gaji").map Answer.toText = some "5.0" ∧
    ((retype [⟨"gaji", .number, "", false⟩, ⟨"gaji", .text, "", false⟩]
      (retype [⟨"gaji", .number, "", false⟩, ⟨"gaji", .text, "", false⟩]
        (.ofList [("gaji", .list [.text "5.0"])]))).get? "gaji").map Answer.toText = some "5" ∧
    retype [⟨"gaji", .number, "", false⟩, ⟨"gaji", .text, "", false⟩]
        (retype [⟨"gaji", .number, "", false⟩, ⟨"gaji", .text, "", false⟩]
          (.ofList [("gaji", .list [.text "5.0"])])) ≠
      retype [⟨"gaji", .number, "", false⟩, ⟨"gaji", .text, "", false⟩]
        (.ofList [("gaji", .list [.text "5.0"])]) := by
  have honce : ((retype [⟨"gaji", .number, "", false⟩, ⟨"gaji", .text, "", false⟩]
      (.ofList [("gaji", .list [.text "5.0"])])).get? "gaji").map Answer.toText = some "5.0" := by
    decide +kernel
  have htwice : ((retype [⟨"gaji", .number, "", false⟩, ⟨"gaji", .text, "", false⟩]
      (retype [⟨"gaji", .number, "", false⟩, ⟨"gaji", .text, "", false⟩]
        (.ofList [("gaji", .list [.text "5.0"])]))).get? "gaji").map Answer.toText =
      some "5" := by
    decide +kernel
  refine ⟨honce, htwice, fun h => ?_⟩
  rw [h, honce] at htwice
  exact absurd htwice (by decide)

end Hiring
