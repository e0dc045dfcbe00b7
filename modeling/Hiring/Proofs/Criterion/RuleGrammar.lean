import Hiring.Criterion.NumericRule
import Hiring.Proofs.Decimal.Grammar
import Hiring.Proofs.Text.Trimming
import Mathlib.Data.List.Nodup

/-!
# The grammar of rules for numbers

A rule is read by trying nine operators in a fixed order, cutting the first one that fits off the
front, and reading the rest as a numeral.  Two of the operators begin with another one, so the
order matters; the words end in a blank, and the numerals know words too, so that it is not clear
from the outset that a text can be read in one way only.  This file gives the grammar, and shows
that the order that is used is one of many.

    rule = operator [blanks] numeral / numeral      (the numeral finite, blanks around it)

* `Begins`, `Opens` — an operator stands at the front; it is the one that is taken there.
* `Says` — the grammar, with the rule that is said.
* `Opens.unique`, `Begins.not_numeral` — a text begins with one operator at most, and then it is no
  numeral.
* `Ordered`, `parseIn` — the operators in other orders, and reading with them.
* `parse_exact` — **the reader accepts the grammar**, refuses all else with the text as it was
  given, and does so with the operators in every order that is `Ordered`.
-/

set_option autoImplicit false

namespace Hiring.NumericRule

open Text
open Binary64 (Numeral)

variable {table : List (List Char × Comparison)} {cs op op' rest rest' word word' : List Char}
  {c c' : Comparison}

/-! ## Operators at the front -/

/-- The operators for a comparison: a sign, and for the two that include equality a word and a
longer word. -/
def operators : Comparison → List (List Char)
  | .atLeast => [['>', '='], ['m', 'i', 'n', ' '], ['m', 'i', 'n', 'i', 'm', 'a', 'l', ' ']]
  | .atMost => [['<', '='], ['m', 'a', 'x', ' '], ['m', 'a', 'k', 's', 'i', 'm', 'a', 'l', ' ']]
  | .greaterThan => [['>']]
  | .lessThan => [['<']]
  | .equalTo => [['=']]

theorem mem_spellings_iff : (word, c) ∈ spellings ↔ word ∈ operators c := by
  cases c <;> simp [spellings, operators]

/-- Some characters begin with an operator, in any case of its letters. -/
def Begins (cs : List Char) : Prop :=
  ∃ c, ∃ word ∈ operators c, ∃ op rest, cs = op ++ rest ∧ foldCase op = foldCase word

/-- Some characters begin with an operator for a comparison, and go on with the rest: `>=` and `<=`
are taken wherever they stand. -/
inductive Opens (cs : List Char) (c : Comparison) (rest : List Char) : Prop where
  | intro {word op : List Char} (listed : word ∈ operators c) (cut : cs = op ++ rest)
      (spelled : foldCase op = foldCase word)
      (longest : word = ['>'] ∨ word = ['<'] → rest.head? ≠ some '=')

theorem startsWith_iff :
    startsWith word cs = true ↔ ∃ op rest, cs = op ++ rest ∧ foldCase op = foldCase word := by
  rw [startsWith, sameIgnoringCase_iff]
  constructor
  · intro h
    exact ⟨cs.take word.length, cs.drop word.length, (List.take_append_drop _ _).symm, h.symm⟩
  · rintro ⟨op, rest, rfl, hop⟩
    have hlength : word.length = op.length := by
      rw [← foldCase_length word, ← foldCase_length op, hop]
    rw [hlength, List.take_left, hop]

theorem begins_iff : Begins cs ↔ ∃ p ∈ spellings, startsWith p.1 cs = true := by
  simp only [startsWith_iff]
  constructor
  · rintro ⟨c, word, listed, op, rest, cut, spelled⟩
    exact ⟨(word, c), mem_spellings_iff.2 listed, op, rest, cut, spelled⟩
  · rintro ⟨⟨word, c⟩, listed, op, rest, cut, spelled⟩
    exact ⟨c, word, mem_spellings_iff.1 listed, op, rest, cut, spelled⟩

theorem Opens.begins (h : Opens cs c rest) : Begins cs := by
  obtain ⟨listed, cut, spelled, -⟩ := h
  exact ⟨c, _, listed, _, rest, cut, spelled⟩

/-- Operators are written in small letters. -/
theorem foldCase_operator (h : word ∈ operators c) : foldCase word = word := by
  revert word
  cases c <;> decide

/-- Only `>=` and `<=` begin with another operator. -/
theorem eq_or_of_prefix : ∀ p ∈ spellings, ∀ q ∈ spellings, p.1 <+: q.1 →
    p = q ∨ ((p.1 = ['>'] ∨ p.1 = ['<']) ∧ q.1 = p.1 ++ ['=']) := by
  decide

/-- Of two operators at the front the longer one is taken. -/
theorem eq_of_prefix (listed : word ∈ operators c) (listed' : word' ∈ operators c')
    (spelled : foldCase op = foldCase word) (spelled' : foldCase op' = foldCase word')
    (longest : word = ['>'] ∨ word = ['<'] → rest.head? ≠ some '=')
    (cut : op ++ rest = op' ++ rest') (h : op <+: op') : c = c' ∧ rest = rest' := by
  obtain ⟨more, rfl⟩ := h
  have hrest : rest = more ++ rest' := by simpa using cut
  have hword : word' = word ++ foldCase more := by
    rw [← foldCase_operator listed, ← foldCase_operator listed', ← spelled, ← spelled',
      foldCase_append]
  rcases eq_or_of_prefix _ (mem_spellings_iff.2 listed) _ (mem_spellings_iff.2 listed')
    ⟨foldCase more, hword.symm⟩ with heq | ⟨hshort, heq⟩
  · obtain ⟨rfl, rfl⟩ := Prod.mk.inj heq
    have hmore : more = [] := by simpa [foldCase] using hword
    rw [hrest, hmore]
    exact ⟨rfl, rfl⟩
  · have hmore : foldCase more = foldCase ['='] := List.append_cancel_left (hword.symm.trans heq)
    rw [eq_of_foldCase_eq (List.forall_mem_singleton.2 (by decide)) hmore] at hrest
    exact absurd (by rw [hrest]; rfl) (longest hshort)

/-- **A text begins with one operator at most.** -/
theorem Opens.unique (h : Opens cs c rest) (h' : Opens cs c' rest') : c = c' ∧ rest = rest' := by
  obtain ⟨listed, cut, spelled, longest⟩ := h
  obtain ⟨listed', cut', spelled', longest'⟩ := h'
  have hcut := cut.symm.trans cut'
  rcases List.prefix_or_prefix_of_prefix ⟨_, cut.symm⟩ ⟨_, cut'.symm⟩ with h | h
  · exact eq_of_prefix listed listed' spelled spelled' longest hcut h
  · obtain ⟨hc, hrest⟩ := eq_of_prefix listed' listed spelled' spelled longest' hcut.symm h
    exact ⟨hc.symm, hrest.symm⟩

/-- The characters that operators begin with. -/
def openers : List Char := ['>', '<', '=', 'm']

/-- The empty text would begin with a blank, so no operator is empty. -/
theorem headD_operator (h : word ∈ operators c) : (word.headD ' ').toLower ∈ openers := by
  revert word
  cases c <;> decide

/-- An operator begins with one of four characters. -/
theorem Begins.exists_cons (h : Begins cs) :
    ∃ d more, cs = d :: more ∧ d.toLower ∈ openers := by
  obtain ⟨c, word, listed, op, rest, rfl, spelled⟩ := h
  have hopener := headD_operator listed
  cases word with
  | nil => exact absurd hopener (by decide)
  | cons w word =>
    obtain ⟨d, op, rfl, hd, -⟩ := exists_cons_of_foldCase spelled
    exact ⟨d, op ++ rest, rfl, hd ▸ hopener⟩

/-- **What begins with an operator is no numeral.** -/
theorem Begins.not_numeral {x : Binary64} (h : Begins cs) : ¬ Numeral cs x := by
  intro hx
  obtain ⟨d, more, rfl, hd⟩ := h.exists_cons
  obtain ⟨e, more', heq, he⟩ := hx.exists_cons
  obtain ⟨rfl, rfl⟩ := List.cons.inj heq
  simp only [openers, List.mem_cons, List.not_mem_nil, or_false] at hd
  rcases he with he | he
  · rw [toLower_of_isDigit he] at hd
    rcases hd with rfl | rfl | rfl | rfl <;> cases he
  · rcases hd with hd | hd | hd | hd <;> rw [hd] at he <;> revert he <;> decide

/-! ## The operators in other orders -/

/-- The operator at the front of a text, tried in the order of a table, and what follows it. -/
def operatorIn? (table : List (List Char × Comparison)) (cs : List Char) :
    Option (Comparison × List Char) :=
  (table.find? fun (word, _) => startsWith word cs).map fun (word, comparison) =>
    (comparison, cs.drop word.length)

/-- The rule of a text, with the operators tried in the order of a table. -/
def parseIn (table : List (List Char × Comparison)) (input : String) :
    Except ParseError NumericRule :=
  let cs := trimChars input.toList
  let (comparison, rest) := (operatorIn? table cs).getD (.equalTo, cs)
  match (Binary64.ofChars? (trimChars rest)).filter Binary64.isFinite with
  | some threshold => .ok ⟨comparison, threshold⟩
  | none => .error ⟨input⟩

/-- The operators in some order, `>=` in front of `>` and `<=` in front of `<`. -/
structure Ordered (table : List (List Char × Comparison)) : Prop where
  perm : table.Perm spellings
  atLeast : [(['>', '='], Comparison.atLeast), (['>'], Comparison.greaterThan)].Sublist table
  atMost : [(['<', '='], Comparison.atMost), (['<'], Comparison.lessThan)].Sublist table

theorem ordered_spellings : Ordered spellings := ⟨.refl _, by decide, by decide⟩

theorem operatorIn?_spellings (cs : List Char) : operatorIn? spellings cs = operator? cs := rfl

/-- What stands in front of an entry that comes once stands in front of it wherever the list is
cut there. -/
theorem mem_of_pair_sublist {α : Type} {a b : α} {before after : List α}
    (h : [a, b].Sublist (before ++ b :: after)) (nodup : (before ++ b :: after).Nodup) :
    a ∈ before := by
  obtain ⟨front, back, hcut, ha, hb⟩ := List.cons_sublist_iff.1 h
  rw [List.singleton_sublist] at hb
  rcases List.append_eq_append_iff.1 hcut with ⟨more, rfl, hafter⟩ | ⟨more, rfl, -⟩
  · cases more with
    | nil => simpa using ha
    | cons d more =>
      obtain ⟨rfl, rfl⟩ := List.cons.inj hafter
      have hb' : b ∉ before ++ (more ++ back) := (List.nodup_cons.1 (List.nodup_middle.1 nodup)).1
      exact absurd (List.mem_append_right _ (List.mem_append_right _ hb)) hb'
  · exact List.mem_append_left _ ha

theorem Ordered.nodup (ordered : Ordered table) : table.Nodup :=
  ordered.perm.nodup_iff.2 (by decide)

/-- An operator that a longer one continues is not found where the longer one stands. -/
theorem not_head?_of_pair {before after : List (List Char × Comparison)} {long : Comparison}
    (pair : [(word ++ ['='], long), (word, c)].Sublist (before ++ (word, c) :: after))
    (nodup : (before ++ (word, c) :: after).Nodup)
    (first : ∀ p ∈ before, ¬ startsWith p.1 (op ++ rest) = true)
    (spelled : foldCase op = foldCase word) : rest.head? ≠ some '=' := by
  intro hhead
  obtain ⟨more, rfl⟩ := List.head?_eq_some_iff.1 hhead
  refine first _ (mem_of_pair_sublist pair nodup) ?_
  refine startsWith_iff.2 ⟨op ++ ['='], more, by simp, ?_⟩
  rw [foldCase_append, foldCase_append, spelled]

theorem opens_of_operatorIn? (ordered : Ordered table)
    (h : operatorIn? table cs = some (c, rest)) : Opens cs c rest := by
  obtain ⟨⟨word, c⟩, hfind, hpair⟩ := Option.map_eq_some_iff.1 h
  obtain ⟨rfl, rfl⟩ := Prod.mk.inj hpair
  obtain ⟨hstarts, before, after, rfl, hfirst⟩ := List.find?_eq_some_iff_append.1 hfind
  obtain ⟨op, rest, rfl, spelled⟩ := startsWith_iff.1 hstarts
  have hlength : word.length = op.length := by
    rw [← foldCase_length word, ← foldCase_length op, spelled]
  have hlisted : word ∈ operators c := mem_spellings_iff.1 (ordered.perm.mem_iff.1 (by simp))
  simp only [hlength, List.drop_left]
  refine .intro hlisted rfl spelled ?_
  have hnodup := ordered.nodup
  have hfirst' : ∀ p ∈ before, ¬ startsWith p.1 (op ++ rest) = true := by simpa using hfirst
  rintro (rfl | rfl)
  · obtain rfl : c = .greaterThan := by
      revert hlisted
      cases c <;> decide
    exact not_head?_of_pair ordered.atLeast hnodup hfirst' spelled
  · obtain rfl : c = .lessThan := by
      revert hlisted
      cases c <;> decide
    exact not_head?_of_pair ordered.atMost hnodup hfirst' spelled

theorem operatorIn?_eq_none_iff (ordered : Ordered table) :
    operatorIn? table cs = none ↔ ¬ Begins cs := by
  rw [operatorIn?, Option.map_eq_none_iff, List.find?_eq_none, begins_iff]
  simp only [ordered.perm.mem_iff, not_exists, not_and]

/-- **In an order with `>=` and `<=` in front the operator is the one that is taken.** -/
theorem operatorIn?_eq_some_iff (ordered : Ordered table) :
    operatorIn? table cs = some (c, rest) ↔ Opens cs c rest := by
  refine ⟨opens_of_operatorIn? ordered, fun h => ?_⟩
  cases hfound : operatorIn? table cs with
  | none => exact absurd h.begins ((operatorIn?_eq_none_iff ordered).1 hfound)
  | some found =>
    obtain ⟨rfl, rfl⟩ := h.unique (opens_of_operatorIn? ordered hfound)
    rfl

/-- **The order of the operators does not count** beyond that. -/
theorem operatorIn?_eq (ordered : Ordered table) (cs : List Char) :
    operatorIn? table cs = operator? cs := by
  refine Option.ext fun p => ?_
  rw [← operatorIn?_spellings, operatorIn?_eq_some_iff ordered,
    operatorIn?_eq_some_iff ordered_spellings]

theorem parseIn_eq (ordered : Ordered table) (input : String) :
    parseIn table input = parse input := by
  simp only [parseIn, parse, ofChars?, operatorIn?_eq ordered]
  cases (Binary64.ofChars? _).filter Binary64.isFinite <;> rfl

/-! ## What a rule says -/

/-- Some characters without blanks at their ends say a rule: an operator and a finite numeral, or a
finite numeral alone where no operator stands in front. -/
inductive Says (cs : List Char) : NumericRule → Prop where
  | compares {c : Comparison} {rest : List Char} {t : Binary64} (opens : Opens cs c rest)
      (numeral : Numeral (trimChars rest) t) (finite : t.isFinite = true) : Says cs ⟨c, t⟩
  | equals {t : Binary64} (bare : ¬ Begins cs) (numeral : Numeral cs t)
      (finite : t.isFinite = true) : Says cs ⟨.equalTo, t⟩

theorem filter_ofChars?_eq_some_iff {t : Binary64} :
    (Binary64.ofChars? cs).filter Binary64.isFinite = some t ↔
      Numeral cs t ∧ t.isFinite = true := by
  rw [Option.filter_eq_some_iff, Binary64.ofChars?_eq_some_iff]

theorem ofChars?_eq_some_iff {rule : NumericRule} (hcs : trimChars cs = cs) :
    ofChars? cs = some rule ↔ Says cs rule := by
  unfold ofChars?
  cases hop : operator? cs with
  | none =>
    have hbare : ¬ Begins cs := (operatorIn?_eq_none_iff ordered_spellings).1 hop
    simp only [Option.getD_none, hcs, Option.map_eq_some_iff, filter_ofChars?_eq_some_iff]
    constructor
    · rintro ⟨t, ⟨numeral, finite⟩, rfl⟩
      exact .equals hbare numeral finite
    · rintro (⟨opens, -, -⟩ | ⟨-, numeral, finite⟩)
      · exact absurd opens.begins hbare
      · exact ⟨_, ⟨numeral, finite⟩, rfl⟩
  | some found =>
    obtain ⟨c, rest⟩ := found
    have hopens : Opens cs c rest := (operatorIn?_eq_some_iff ordered_spellings).1 hop
    simp only [Option.getD_some, Option.map_eq_some_iff, filter_ofChars?_eq_some_iff]
    constructor
    · rintro ⟨t, ⟨numeral, finite⟩, rfl⟩
      exact .compares hopens numeral finite
    · rintro (⟨opens, numeral, finite⟩ | ⟨bare, -, -⟩)
      · obtain ⟨rfl, rfl⟩ := hopens.unique opens
        exact ⟨_, ⟨numeral, finite⟩, rfl⟩
      · exact absurd hopens.begins bare

/-- **A text is read as the rule that it says.** -/
theorem parse_eq_ok_iff {s : String} {rule : NumericRule} :
    parse s = .ok rule ↔ Says (trimChars s.toList) rule := by
  rw [← ofChars?_eq_some_iff (trimChars_trimChars _), parse]
  cases ofChars? (trimChars s.toList) <;> simp

theorem parse_eq_error_iff {s : String} {e : ParseError} :
    parse s = .error e ↔ e = ⟨s⟩ ∧ ∀ rule, ¬ Says (trimChars s.toList) rule := by
  simp only [← parse_eq_ok_iff]
  cases h : parse s with
  | ok rule => simp
  | error e' =>
    obtain rfl : e' = ⟨s⟩ := by rw [← input_of_parse h]
    simp [eq_comm]

/-- **Rules are read by their grammar.**  A text is read as the rule that it says without its outer
blanks, and as nothing else; a text that says no rule is refused, and handed back as it was given.
There is one way to read a text: it begins with one operator at most, and if it does it is no
numeral.  The order in which the operators are tried does not count, as long as `>=` comes before
`>` and `<=` before `<`. -/
theorem parse_exact (s : String) :
    (∀ rule, parse s = .ok rule ↔ Says (trimChars s.toList) rule) ∧
    (∀ e, parse s = .error e ↔ e = ⟨s⟩ ∧ ∀ rule, ¬ Says (trimChars s.toList) rule) ∧
    (∀ cs, Begins cs → ∀ x, ¬ Numeral cs x) ∧
    (∀ cs c c' rest rest', Opens cs c rest → Opens cs c' rest' → c = c' ∧ rest = rest') ∧
    ∀ table, Ordered table → parseIn table s = parse s :=
  ⟨fun _ => parse_eq_ok_iff, fun _ => parse_eq_error_iff, fun _ h _ => h.not_numeral,
    fun _ _ _ _ _ => Opens.unique, fun _ ordered => parseIn_eq ordered s⟩

/-- The operators with the words in front, the longest first. -/
def wordsFirst : List (List Char × Comparison) := [
  (['m', 'a', 'k', 's', 'i', 'm', 'a', 'l', ' '], .atMost),
  (['m', 'i', 'n', 'i', 'm', 'a', 'l', ' '], .atLeast),
  (['m', 'a', 'x', ' '], .atMost),
  (['m', 'i', 'n', ' '], .atLeast),
  (['='], .equalTo),
  (['<', '='], .atMost),
  (['>', '='], .atLeast),
  (['<'], .lessThan),
  (['>'], .greaterThan)]

/-- With the words in front rules are read as they are with the signs in front: one that begins with
a sign that another one continues, and one in mixed letters with blanks of all sorts. -/
theorem parse_exact_wordsFirst :
    Ordered wordsFirst ∧
    parseIn wordsFirst "\u00A0MINimal \t30e-1 " = .ok ⟨.atLeast, .ofInt 3⟩ ∧
    parseIn wordsFirst ">=3" = .ok ⟨.atLeast, .ofInt 3⟩ ∧
    Begins ['>', '=', '3'] ∧ ¬ Numeral ['>', '=', '3'] (.ofInt 3) ∧
    Opens ['>', '=', '3'] .atLeast ['3'] ∧ ¬ Opens ['>', '=', '3'] .greaterThan ['=', '3'] := by
  have ordered : Ordered wordsFirst := ⟨by decide, by decide, by decide⟩
  have opens : Opens ['>', '=', '3'] .atLeast ['3'] := .intro (.head _) rfl rfl (by decide)
  obtain ⟨-, -, hnumeral, hunique, -⟩ := parse_exact ">=3"
  have hsign := (parse_exact ">=3").2.2.2.2 wordsFirst ordered
  have hword := (parse_exact "\u00A0MINimal \t30e-1 ").2.2.2.2 wordsFirst ordered
  exact ⟨ordered, hword.trans (by decide +kernel), hsign.trans (by decide +kernel), opens.begins,
    hnumeral _ opens.begins _, opens, fun h => nomatch (hunique _ _ _ _ _ opens h).1⟩

end Hiring.NumericRule
