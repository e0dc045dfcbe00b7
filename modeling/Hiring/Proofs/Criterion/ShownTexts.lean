import Hiring.Proofs.Criterion.AllowedTexts
import Hiring.Proofs.Text.SmallLetters

/-!
# The allow-list that is shown

Who fails at an allow-list is shown the list, and may come to think of it as the rule.  It is not
the text of the rule: blanks, empty parts and capitals are gone, and a blank stands behind each
comma.  Whoever reads the shown text as a rule still finds the same list, since the tokens are
settled: trimming and lower-casing have nothing left to do on them, and no token has a comma at
which it could be cut again.

* `AllowList.Settled` — a text that is a token of a rule as it stands.
* `AllowList.settled_of_mem` — the tokens of a list are settled.
* `AllowList.map_normal_pieces_shown` — what is shown falls into the tokens again.
* `AllowList.ofText_shown` — **settled tokens that are shown are read again**, in their order.
* `AllowList.shown_faithful` — **the shown list is the list that is applied**.
-/

set_option autoImplicit false

namespace Hiring.AllowList

open Text

variable {rule w : String} {tokens : List String}

/-! ## Settled tokens -/

/-- A text that stays as it is when it is read as a token. -/
structure Settled (w : String) : Prop where
  notEmpty : w ≠ ""
  noComma : ',' ∉ w.toList
  trimmed : trim w = w
  small : lowercase w = w

/-- **The tokens of a list are settled.** -/
theorem settled_of_mem (h : w ∈ ofText rule) : Settled w := by
  obtain ⟨token, htoken, rfl⟩ := mem_ofText_iff.1 h
  refine ⟨?_, ?_, trim_lowercase_trim token, lowercase_lowercase (trim token)⟩
  · rw [Ne, lowercase_trim_eq_empty_iff, htoken.notBlank]
    decide
  · rw [comma_mem_lowercase_trim]
    exact htoken.piece.not_mem

theorem Settled.normal_eq (h : Settled w) : normal w.toList = w.toList := by
  have hnormal := ofList_normal w
  rw [h.trimmed, h.small] at hnormal
  have hchars := congrArg String.toList hnormal
  rwa [String.toList_ofList] at hchars

/-! ## Reading what is shown -/

/-- The blank behind a comma is trimmed away. -/
theorem normal_blank (cs : List Char) : normal (' ' :: cs) = normal cs := by
  have hblank : trimStart (' ' :: cs) = trimStart cs := List.dropWhile_cons_of_pos (by rfl)
  rw [normal, trimChars, hblank, normal, trimChars]

/-- A blank in front of a text is in front of its first piece. -/
theorem map_normal_pieces_blank (cs : List Char) :
    (pieces ',' (' ' :: cs)).map normal = (pieces ',' cs).map normal := by
  cases hpieces : pieces ',' cs with
  | nil => exact absurd hpieces (pieces_ne_nil ',' cs)
  | cons first more =>
    rw [pieces, if_neg (by decide), hpieces]
    exact congrArg (· :: more.map normal) (normal_blank first)

/-- What is shown of some tokens falls into the tokens again. -/
theorem map_normal_pieces_shown (hne : tokens ≠ []) (h : ∀ w ∈ tokens, Settled w) :
    (pieces ',' (shown tokens).toList).map normal = tokens.map String.toList := by
  induction tokens with
  | nil => exact absurd rfl hne
  | cons w rest ih =>
    have hw : Settled w := h w (.head _)
    cases rest with
    | nil =>
      rw [shown, String.intercalate_singleton, pieces_of_not_mem hw.noComma, List.map_singleton,
        hw.normal_eq]
      rfl
    | cons v more =>
      have hshown : (shown (w :: v :: more)).toList =
          w.toList ++ ',' :: ' ' :: (shown (v :: more)).toList := by
        rw [shown, String.intercalate_cons_cons, String.toList_append, String.toList_append,
          List.append_assoc]
        rfl
      rw [hshown, pieces_append_cons, pieces_of_not_mem hw.noComma, List.map_append,
        map_normal_pieces_blank, ih (List.cons_ne_nil v more) fun u hu => h u (.tail _ hu),
        List.map_singleton, hw.normal_eq]
      rfl

/-- **Settled tokens that are shown are read again**, in their order and with repetitions. -/
theorem ofText_shown (h : ∀ w ∈ tokens, Settled w) : ofText (shown tokens) = tokens := by
  by_cases hne : tokens = []
  · subst hne
    rfl
  · have hkept : ∀ cs ∈ tokens.map String.toList, (!cs.isEmpty) = true := by
      intro cs hcs
      obtain ⟨w, hw, rfl⟩ := List.mem_map.1 hcs
      simpa using (h w hw).notEmpty
    rw [ofText, map_normal_pieces_shown hne h, List.filter_eq_self.2 hkept, List.map_map]
    exact List.map_congr_left (fun w _ => String.ofList_toList) |>.trans (List.map_id tokens)

/-- The lists of rules are the lists of settled tokens. -/
theorem exists_ofText_iff : (∃ rule, ofText rule = tokens) ↔ ∀ w ∈ tokens, Settled w := by
  constructor
  · rintro ⟨rule, rfl⟩ w
    exact settled_of_mem
  · exact fun h => ⟨shown tokens, ofText_shown h⟩

/-! ## Answers under the shown list -/

/-- A failure shows the list. -/
theorem reason_of_failed {a : Answer} {label : String}
    (h : (checkText a rule label).tagName = "failed") :
    (checkText a rule label).reason = "Jawaban '" ++ a.toText ++ "' untuk " ++ label ++
      " tidak ada di daftar yang diizinkan: " ++ shown (ofText rule) ++ "." := by
  unfold checkText at h ⊢
  dsimp only at h ⊢
  split at h
  · simp [Outcome.tagName] at h
  · split at h
    · simp [Outcome.tagName] at h
    · next hrules haccepts =>
      rw [if_neg hrules, if_neg haccepts]
      rfl

/-- **The shown list is the list that is applied.**  Its tokens are not empty and have no comma,
and neither trimming nor lower-casing changes them; any list of such tokens is the list of a rule.
A failure ends with the list as it is shown, and the shown text as a rule has the same list, in the
same order and with the same repetitions, so that every answer has the same outcome under it. -/
theorem shown_faithful (rule : String) :
    (∀ w ∈ ofText rule, w ≠ "" ∧ ',' ∉ w.toList ∧ trim w = w ∧ lowercase w = w) ∧
    (∀ tokens, (∃ rule, ofText rule = tokens) ↔ ∀ w ∈ tokens, Settled w) ∧
    ofText (shown (ofText rule)) = ofText rule ∧
    ∀ (a : Answer) (label : String),
      checkText a (shown (ofText rule)) label = checkText a rule label ∧
      ((checkText a rule label).tagName = "failed" →
        (checkText a rule label).reason = "Jawaban '" ++ a.toText ++ "' untuk " ++ label ++
          " tidak ada di daftar yang diizinkan: " ++ shown (ofText rule) ++ ".") := by
  have hread : ofText (shown (ofText rule)) = ofText rule :=
    ofText_shown fun _ => settled_of_mem
  refine ⟨fun w hw => ?_, fun tokens => exists_ofText_iff, hread,
    fun a label => ⟨?_, reason_of_failed⟩⟩
  · have hsettled := settled_of_mem hw
    exact ⟨hsettled.notEmpty, hsettled.noComma, hsettled.trimmed, hsettled.small⟩
  · rw [checkText, checkText, hread]

/-- A rule with an empty part, a repeated token and a sigma at the end of a word: its list in a
message, and an answer under that list. -/
theorem shown_faithful_repeated :
    ofText " S1, ,ΟΔΟΣ,s1\u3000" = ["s1", "οδος", "s1"] ∧
    shown (ofText " S1, ,ΟΔΟΣ,s1\u3000") = "s1, οδος, s1" ∧
    trim "οδος" = "οδος" ∧ lowercase "οδος" = "οδος" ∧
    ofText "s1, οδος, s1" = ["s1", "οδος", "s1"] ∧
    (checkText (.text "S2") "s1, οδος, s1" "gelar").reason =
      "Jawaban 'S2' untuk gelar tidak ada di daftar yang diizinkan: s1, οδος, s1." := by
  have hlist : ofText " S1, ,ΟΔΟΣ,s1\u3000" = ["s1", "οδος", "s1"] := by decide +kernel
  have hshown : shown (ofText " S1, ,ΟΔΟΣ,s1\u3000") = "s1, οδος, s1" := by
    rw [hlist]
    decide +kernel
  obtain ⟨htokens, -, hread, houtcomes⟩ := shown_faithful " S1, ,ΟΔΟΣ,s1\u3000"
  obtain ⟨-, -, htrim, hsmall⟩ := htokens "οδος" (by rw [hlist]; decide)
  obtain ⟨hsame, hreason⟩ := houtcomes (.text "S2") "gelar"
  rw [hshown] at hread hsame hreason
  have hfailed : (checkText (.text "S2") " S1, ,ΟΔΟΣ,s1\u3000" "gelar").tagName = "failed" := by
    decide +kernel
  refine ⟨hlist, hshown, htrim, hsmall, hread.trans hlist, ?_⟩
  rw [hsame, hreason hfailed]
  decide +kernel

end Hiring.AllowList
