import Hiring.Text.Pieces
import Mathlib.Data.List.Basic

/-!
# The pieces of a text, without cutting

`Text.pieces` cuts a text from the front.  Which pieces there are can be said without a cut: a piece
is a part of the text without a separator that is not cut out of a longer one, so that a separator
or an end of the text stands on either side of it (`Text.IsPiece`).

* `pieces_append_cons` — the pieces on one side of a separator do not depend on the other side.
* `mem_pieces_iff` — **the pieces are the parts between neighbouring separators**.
-/

set_option autoImplicit false

namespace Hiring.Text

variable {separator : Char} {cs piece : List Char}

/-- A part of a text without a separator that reaches on both sides to a separator or to the end. -/
def IsPiece (separator : Char) (cs piece : List Char) : Prop :=
  ∃ before after, cs = before ++ piece ++ after ∧ separator ∉ piece ∧
    (∀ c ∈ before.getLast?, c = separator) ∧ ∀ c ∈ after.head?, c = separator

theorem IsPiece.not_mem (h : IsPiece separator cs piece) : separator ∉ piece := by
  obtain ⟨before, after, -, hpiece, -⟩ := h
  exact hpiece

/-- The pieces on one side of a separator do not depend on the other side. -/
theorem pieces_append_cons (separator : Char) (x y : List Char) :
    pieces separator (x ++ separator :: y) = pieces separator x ++ pieces separator y := by
  induction x with
  | nil => simp [pieces]
  | cons c x ih =>
    by_cases hc : c = separator
    · simp [pieces, hc, ih]
    · cases hx : pieces separator x with
      | nil => exact absurd hx (pieces_ne_nil separator x)
      | cons first more => simp [pieces, hc, ih, hx]

/-- What stands between the end of the text and its first separator is a piece, and all the other
pieces stand behind that separator. -/
theorem isPiece_of_mem_pieces (h : piece ∈ pieces separator cs) : IsPiece separator cs piece := by
  induction hn : cs.length using Nat.strongRecOn generalizing cs with
  | ind n ih =>
    by_cases hmem : separator ∈ cs
    · obtain ⟨x, y, rfl, hx⟩ := List.eq_append_cons_of_mem hmem
      rw [pieces_append_cons, pieces_of_not_mem hx, List.singleton_append, List.mem_cons] at h
      rcases h with rfl | h
      · exact ⟨[], separator :: y, rfl, hx, by simp, by simp⟩
      · have hshort : y.length < n := by
          rw [← hn, List.length_append, List.length_cons]
          omega
        obtain ⟨before, after, rfl, hpiece, hbefore, hafter⟩ := ih y.length hshort h rfl
        refine ⟨x ++ separator :: before, after, by simp, hpiece, fun c hc => ?_, hafter⟩
        rw [List.getLast?_append_cons] at hc
        cases before with
        | nil => exact (Option.some.inj hc).symm
        | cons d before => exact hbefore c (by rwa [List.getLast?_cons_cons] at hc)
    · rw [pieces_of_not_mem hmem, List.mem_singleton] at h
      subst h
      exact ⟨[], [], by simp, hmem, by simp, by simp⟩

theorem mem_pieces_append {after : List Char} (hpiece : separator ∉ piece)
    (hafter : ∀ c ∈ after.head?, c = separator) : piece ∈ pieces separator (piece ++ after) := by
  cases after with
  | nil => simp [pieces_of_not_mem hpiece]
  | cons c after =>
    rw [hafter c rfl, pieces_append_cons, pieces_of_not_mem hpiece]
    exact .head _

/-- **The pieces are the parts between neighbouring separators.** -/
theorem mem_pieces_iff : piece ∈ pieces separator cs ↔ IsPiece separator cs piece := by
  refine ⟨isPiece_of_mem_pieces, ?_⟩
  rintro ⟨before, after, rfl, hpiece, hbefore, hafter⟩
  rw [List.append_assoc]
  have hrest := mem_pieces_append hpiece hafter
  rcases List.eq_nil_or_concat' before with rfl | ⟨front, c, rfl⟩
  · exact hrest
  · rw [hbefore c (by simp), List.append_assoc, List.singleton_append, pieces_append_cons]
    exact List.mem_append_right _ hrest

/-- A piece has no characters that the text does not have. -/
theorem mem_of_mem_pieces {c : Char} (h : piece ∈ pieces separator cs) (hc : c ∈ piece) :
    c ∈ cs := by
  obtain ⟨before, after, rfl, -⟩ := mem_pieces_iff.1 h
  exact List.mem_append_left _ (List.mem_append_right _ hc)

end Hiring.Text
