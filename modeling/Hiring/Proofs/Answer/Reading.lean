import Hiring.Answer.Basic
import Hiring.Proofs.Decimal.ReadBack
import Hiring.Proofs.Text.Trimming

/-!
# What an answer says, and its text

An answer says a number, or it does not.  The text of a number has no blanks and says the number
again, so that going through the text of an answer loses nothing: the text of an answer that says a
number says that number (`Answer.finiteOfText?_toText`).  The converse fails for lists alone, since
a list says no number whatever its text is (`Answer.eq_list_of_reads`).
-/

set_option autoImplicit false

namespace Hiring

/-! ## The text of a number has no blanks -/

namespace Decimal

/-- A number is written out with digits and a point. -/
theorem isDigit_or_eq_of_mem_positional {digits : Nat} {exponent : Int} {c : Char}
    (h : c ∈ positional digits exponent) : Text.isDigit c = true ∨ c = '.' := by
  have hdigits : ∀ {d}, d ∈ Text.decimalDigits digits → Text.isDigit d = true ∨ d = '.' :=
    fun hd => .inl (Text.isDigit_of_mem_decimalDigits hd)
  unfold positional at h
  cases exponent with
  | ofNat e =>
    rcases List.mem_append.1 h with h | h
    · exact hdigits h
    · exact .inl (Text.isDigit_of_mem_zeros h)
  | negSucc e =>
    simp only at h
    split at h
    · rcases List.mem_append.1 h with h | h
      · exact hdigits (List.mem_of_mem_take h)
      · rcases List.mem_cons.1 h with h | h
        · exact .inr h
        · exact hdigits (List.mem_of_mem_drop h)
    · rcases List.mem_cons.1 h with rfl | h
      · exact .inl rfl
      · rcases List.mem_cons.1 h with h | h
        · exact .inr h
        · rcases List.mem_append.1 h with h | h
          · exact .inl (Text.isDigit_of_mem_zeros h)
          · exact hdigits h

end Decimal

namespace Binary64

theorem isBlank_of_mem_signChars {negative : Bool} {c : Char} (h : c ∈ signChars negative) :
    Text.isBlank c = false := by
  cases negative with
  | true => rw [List.mem_singleton.1 h]; rfl
  | false => cases h

theorem isBlank_of_mem_word {word : List Char} (hword : word.all (!Text.isBlank ·) = true)
    {c : Char} (h : c ∈ word) : Text.isBlank c = false := by
  simpa using List.all_eq_true.1 hword c h

theorem isBlank_of_mem_chars {x : Binary64} {c : Char} (h : c ∈ x.chars) :
    Text.isBlank c = false := by
  cases x with
  | nan => exact isBlank_of_mem_word (by decide) h
  | infinity negative =>
    rcases List.mem_append.1 h with h | h
    · exact isBlank_of_mem_signChars h
    · exact isBlank_of_mem_word (by decide) h
  | finite negative units fits =>
    rcases List.mem_append.1 h with h | h
    · exact isBlank_of_mem_signChars h
    · split at h
      · rw [List.mem_singleton.1 h]; rfl
      · rcases Decimal.isDigit_or_eq_of_mem_positional h with h | rfl
        · exact Text.isBlank_of_isDigit h
        · rfl

theorem trim_text (x : Binary64) : Text.trim x.text = x.text :=
  Text.trim_eq_self fun c hc => isBlank_of_mem_chars (by rwa [text, String.toList_ofList] at hc)

/-- The text of a number says it again if it is finite. -/
theorem finiteOfText?_text (x : Binary64) :
    finiteOfText? x.text = if x.isFinite then some x else none := by
  rw [finiteOfText?, ofText?_text, Option.filter_some]

end Binary64

/-! ## Numbers that answers say -/

namespace Answer

open Binary64 (finiteOfText?)

theorem number?_number {x : Binary64} (h : x.isFinite = true) : (number x).number? = some x := by
  rw [number?, if_pos h]

theorem not_isBlank_of_number? {a : Answer} {x : Binary64} (h : a.number? = some x) :
    ¬ a.isBlank = true := by
  intro hblank
  cases a with
  | text s =>
    rw [eq_of_beq hblank] at h
    cases h
  | null => cases h
  | flag b => cases hblank
  | number y => cases hblank
  | list items => cases hblank

/-- **The text of an answer that says a number says it too.** -/
theorem finiteOfText?_toText {a : Answer} {x : Binary64} (h : a.number? = some x) :
    finiteOfText? (Text.trim a.toText) = some x := by
  cases a with
  | number y =>
    rw [toText, Binary64.trim_text, Binary64.finiteOfText?_text]
    exact h
  | text s => exact h
  | null => cases h
  | flag b => cases h
  | list items => cases h

/-- Only lists have a text that says a number without saying it themselves. -/
theorem eq_list_of_reads {a : Answer} {x : Binary64} (hnone : a.number? = none)
    (hreads : finiteOfText? (Text.trim a.toText) = some x) : ∃ items, a = .list items := by
  cases a with
  | list items => exact ⟨items, rfl⟩
  | null => cases hreads
  | flag b => cases b <;> cases hreads
  | number y =>
    rw [toText, Binary64.trim_text, Binary64.finiteOfText?_text] at hreads
    rw [number?, hreads] at hnone
    cases hnone
  | text s =>
    rw [number?] at hnone
    rw [toText, hnone] at hreads
    cases hreads

end Answer

end Hiring
