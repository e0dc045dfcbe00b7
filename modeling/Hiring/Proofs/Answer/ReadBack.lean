import Hiring.Proofs.Criterion.PointwiseRetyping
import Hiring.Proofs.Json.ReadBack
import Hiring.Screening.Request

/-!
# Answers through a document

Reading an answer from a document and writing it to one do not undo each other: an object is read
as its own text, an integer as the nearest floating-point number, and a number that is not finite
has no numeral and is written as nothing.  All of this happens on the first way through.  Documents
hold finite numbers only, so that an answer that was read once is never changed again, and neither
are retyped answers, since retyping puts no other numbers in.

* `Answer.induction` — what holds of a list if it holds of its items holds of all answers.
* `Answer.IsFinite`, `Answer.finitePart` — an answer whose numbers are finite at every depth, and
  what is left of an answer without the others.
* `Answer.ofJson_toJson`, `Answer.finitePart_eq_iff` — what comes back of an answer, and which
  answers come back as they were.
* `AnswerMap.value?_toJson` — answers that were read and retyped are read again from what is written
  for them, wherever they were read before.
* `answers_survive_documents` — **answers survive documents**, but for the numbers that no document
  holds.
-/

set_option autoImplicit false

namespace Hiring

namespace Answer

/-- What holds of a list if it holds of its items holds of all answers. -/
@[elab_as_elim]
theorem induction {motive : Answer → Prop} (null : motive .null) (flag : ∀ b, motive (.flag b))
    (number : ∀ x, motive (.number x)) (text : ∀ s, motive (.text s))
    (list : ∀ items, (∀ a ∈ items, motive a) → motive (.list items)) : ∀ a, motive a
  | .null => null
  | .flag b => flag b
  | .number x => number x
  | .text s => text s
  | .list items => list items fun a _ => induction null flag number text list a

/-! ## Finite numbers -/

/-- All numbers of the answer are finite, also those in lists inside it. -/
inductive IsFinite : Answer → Prop
  | null : IsFinite .null
  | flag (b : Bool) : IsFinite (.flag b)
  | number {x : Binary64} (h : x.isFinite = true) : IsFinite (.number x)
  | text (s : String) : IsFinite (.text s)
  | list {items : List Answer} (h : ∀ a ∈ items, IsFinite a) : IsFinite (.list items)

mutual

/-- The answer with nothing in the place of each number that is not finite. -/
def finitePart : Answer → Answer
  | .null => .null
  | .flag b => .flag b
  | .number x => if x.isFinite then .number x else .null
  | .text s => .text s
  | .list items => .list (finiteParts items)

/-- Each answer with nothing in the place of each number that is not finite. -/
def finiteParts : List Answer → List Answer
  | [] => []
  | a :: rest => finitePart a :: finiteParts rest

end

theorem finiteParts_eq_map (items : List Answer) : finiteParts items = items.map finitePart := by
  induction items with
  | nil => rfl
  | cons a rest ih => rw [finiteParts, ih, List.map_cons]

theorem isFinite_finitePart (a : Answer) : a.finitePart.IsFinite := by
  induction a using induction with
  | null => exact .null
  | flag b => exact .flag b
  | number x =>
    rw [finitePart]
    split
    · next h => exact .number h
    · exact .null
  | text s => exact .text s
  | list items ih =>
    rw [finitePart, finiteParts_eq_map]
    refine .list fun a ha => ?_
    obtain ⟨b, hb, rfl⟩ := List.mem_map.1 ha
    exact ih b hb

theorem IsFinite.finitePart_eq {a : Answer} (h : a.IsFinite) : a.finitePart = a := by
  induction h with
  | null => rfl
  | flag b => rfl
  | number hx => rw [finitePart, if_pos hx]
  | text s => rfl
  | list _ ih => rw [finitePart, finiteParts_eq_map, List.map_congr_left ih, List.map_id']

/-- An answer has nothing to lose exactly if all its numbers are finite. -/
theorem finitePart_eq_iff {a : Answer} : a.finitePart = a ↔ a.IsFinite :=
  ⟨fun h => h ▸ isFinite_finitePart a, IsFinite.finitePart_eq⟩

/-! ## Through a document and back -/

/-- **What comes back of an answer** is all of it but the numbers that no document holds. -/
theorem ofJson_toJson (a : Answer) : ofJson a.toJson = a.finitePart := by
  induction a using induction with
  | null => rfl
  | flag b => rfl
  | number x =>
    rw [toJson, finitePart]
    split
    · next h =>
      rw [Json.Decoder.ofBinary64_of_isFinite h]
      rfl
    · next h =>
      rw [Json.ofBinary64, Json.Number.ofBinary64?, dif_neg h]
      rfl
  | text s => rfl
  | list items ih =>
    rw [toJson, ofJson, finitePart, finiteParts_eq_map, toItems_eq_map, ofItems_eq_map,
      List.map_map]
    exact congrArg list (List.map_congr_left ih)

/-- **A document holds finite numbers only.** -/
theorem isFinite_ofJson : (j : Json) → (ofJson j).IsFinite
  | .null => .null
  | .bool b => .flag b
  | .number n => .number (Json.Decoder.isFinite_toBinary64 n)
  | .string s => .text s
  | .object _ => .text _
  | .array items => by
    rw [ofJson, ofItems_eq_map]
    refine .list fun a ha => ?_
    obtain ⟨item, hitem, rfl⟩ := List.mem_map.1 ha
    exact isFinite_ofJson item

/-- **Retyping puts only finite numbers and texts in the place of answers**, so what holds of these
is kept. -/
theorem retyped_induction {P : Answer → Prop} (number : ∀ x, x.isFinite = true → P (.number x))
    (text : ∀ s, P (.text s)) {a : Answer} (h : P a) (kind : Criterion.Kind) :
    P (a.retyped kind) := by
  unfold Answer.retyped
  split
  · exact h
  · split
    · split
      · next x hx => exact number x (isFinite_of_number? hx)
      · exact h
    · exact text _
    · exact h

theorem retypedBy_induction {P : Answer → Prop}
    (number : ∀ x, x.isFinite = true → P (.number x)) (text : ∀ s, P (.text s)) {a : Answer}
    (h : P a) (kinds : List Criterion.Kind) : P (a.retypedBy kinds) := by
  induction kinds generalizing a with
  | nil => exact h
  | cons kind kinds ih => exact ih (retyped_induction number text h kind)

theorem IsFinite.retypedBy {a : Answer} (h : a.IsFinite) (kinds : List Criterion.Kind) :
    (a.retypedBy kinds).IsFinite :=
  retypedBy_induction (fun _ => .number) .text h kinds

/-! ## Documents that can be read again -/

open Json (Document Layout)
open Json.Decoder (value? items?)

/-- What is written for the answer is read as such, where so many brackets may be opened. -/
def ReadsIn (layout : Layout) (room : Nat) (a : Answer) : Prop :=
  value? room (.ofJson (layout.apply a.toJson)) = some a.toJson

variable {layout : Layout} {room : Nat}

theorem readsIn_null : ReadsIn layout room .null := by
  rw [ReadsIn, toJson, layout.apply_null]
  rfl

theorem readsIn_flag (b : Bool) : ReadsIn layout room (.flag b) := by
  rw [ReadsIn, toJson, layout.apply_bool]
  rfl

theorem readsIn_text (s : String) : ReadsIn layout room (.text s) := by
  rw [ReadsIn, toJson, layout.apply_string]
  rfl

theorem readsIn_number {x : Binary64} (h : x.isFinite = true) :
    ReadsIn layout room (.number x) := by
  rw [ReadsIn, toJson, Json.Decoder.ofBinary64_of_isFinite h, layout.apply_number]
  rfl

mutual

/-- **An answer that was read is read again** from what is written for it, where as many brackets
may be opened: it is no deeper than the document that it was read from. -/
theorem readsIn_ofJson (layout : Layout) : (d : Document) → {room : Nat} → {j : Json} →
    value? room d = some j → ∀ {room' : Nat}, room ≤ room' → (ofJson j).ReadsIn layout room'
  | .null, _, _, h, _, _ => by
    cases h
    exact readsIn_null
  | .bool b, _, _, h, _, _ => by
    cases h
    exact readsIn_flag b
  | .number (some n), _, _, h, _, _ => by
    cases h
    exact readsIn_number (Json.Decoder.isFinite_toBinary64 n)
  | .number none, _, _, h, _, _ => by cases h
  | .string (some s), _, _, h, _, _ => by
    cases h
    exact readsIn_text s
  | .string none, _, _, h, _, _ => by cases h
  | .object _ _, _, _, h, _, _ => by
    obtain ⟨_, _, -, -, -, rfl⟩ := Json.Decoder.exists_of_value?_object h
    exact readsIn_text _
  | .array items _, _, _, h, room', hroom => by
    obtain ⟨room, js, rfl, rfl, hjs, rfl⟩ := Json.Decoder.exists_of_value?_array h
    obtain ⟨room', rfl⟩ : ∃ r, room' = r + 1 := ⟨room' - 1, by omega⟩
    have hitems := itemsRead_ofItems layout items hjs (Nat.le_of_succ_le_succ hroom)
    rw [ReadsIn, ofJson, toJson, layout.apply_array]
    simp only [Document.ofJson, value?, if_true, hitems, Option.map_some]
  | .broken, _, _, h, _, _ => by cases h

theorem itemsRead_ofItems (layout : Layout) : (ds : List Document) → {room : Nat} →
    {js : List Json} → items? room ds = some js → ∀ {room' : Nat}, room ≤ room' →
      items? room' (Document.ofItems ((toItems (ofItems js)).map layout.apply)) =
        some (toItems (ofItems js))
  | [], _, _, h, _, _ => by
    cases h
    rfl
  | d :: ds, room, js, h, room', hroom => by
    simp only [items?] at h
    split at h
    · next j js hj hjs =>
      cases h
      have hfirst : value? room' (.ofJson (layout.apply (ofJson j).toJson)) = some _ :=
        readsIn_ofJson layout d hj hroom
      simp only [ofItems, toItems, List.map_cons, Document.ofItems, items?, hfirst,
        itemsRead_ofItems layout ds hjs hroom]
    · cases h

end

theorem ReadsIn.retypedBy {a : Answer} (h : a.ReadsIn layout room)
    (kinds : List Criterion.Kind) : (a.retypedBy kinds).ReadsIn layout room :=
  retypedBy_induction (fun _ => readsIn_number) readsIn_text h kinds

end Answer

/-! ## Maps of answers -/

namespace AnswerMap

open Json (Document Layout)
open Json.Decoder (value? fields?)

/-- All numbers of all answers are finite. -/
def IsFinite (m : AnswerMap) : Prop := ∀ label a, m.get? label = some a → a.IsFinite

/-- What comes back of a map of answers: the same labels, each with what comes back of its
answer. -/
theorem ofJson?_toJson (m : AnswerMap) :
    ofJson? m.toJson = some (m.mapEntries fun _ => Answer.finitePart) := by
  rw [toJson, ofJson?, List.map_map, Option.some.injEq]
  refine Keyed.ofList_of_perm (.of_eq (List.map_congr_left fun e _ => ?_))
  exact congrArg (Prod.mk e.1) (Answer.ofJson_toJson e.2)

/-- A map of answers comes back as it was exactly if all its numbers are finite. -/
theorem ofJson?_toJson_eq_iff {m : AnswerMap} : ofJson? m.toJson = some m ↔ m.IsFinite := by
  rw [ofJson?_toJson, Option.some.injEq]
  constructor
  · intro h label a ha
    rw [← h, Keyed.get?_mapEntries] at ha
    obtain ⟨b, -, rfl⟩ := Option.map_eq_some_iff.1 ha
    exact Answer.isFinite_finitePart b
  · intro h
    refine Keyed.ext_get? fun label => ?_
    rw [Keyed.get?_mapEntries]
    cases ha : m.get? label with
    | none => rfl
    | some a => rw [Option.map_some, (h label a ha).finitePart_eq]

/-- The answers in a map that was read are those of the fields. -/
theorem exists_of_ofJson? {j : Json} {m : AnswerMap} (h : ofJson? j = some m) :
    ∃ fields, j = .object fields ∧ ∀ {label a}, m.get? label = some a →
      ∃ value, (label, value) ∈ fields ∧ a = .ofJson value := by
  obtain ⟨fields, rfl⟩ := ofJson?_isSome_iff.1 (Option.isSome_of_eq_some h)
  refine ⟨fields, rfl, fun {label a} ha => ?_⟩
  rw [ofJson?, Option.some.injEq] at h
  rw [← h] at ha
  obtain ⟨e, he, hpair⟩ :=
    List.mem_map.1 (Keyed.mem_of_mem_ofList (Keyed.get?_eq_some_iff.1 ha))
  cases hpair
  exact ⟨e.2, he, rfl⟩

theorem isFinite_of_ofJson? {j : Json} {m : AnswerMap} (h : ofJson? j = some m) :
    m.IsFinite := by
  intro label a ha
  obtain ⟨fields, -, hfields⟩ := exists_of_ofJson? h
  obtain ⟨value, -, rfl⟩ := hfields ha
  exact Answer.isFinite_ofJson value

theorem IsFinite.retype {m : AnswerMap} (h : m.IsFinite) (criteria : List Criterion) :
    IsFinite (retype criteria m) := by
  intro label a ha
  rw [get?_retype] at ha
  obtain ⟨b, hb, rfl⟩ := Option.map_eq_some_iff.1 ha
  exact (h label b hb).retypedBy _

variable {layout : Layout} {room : Nat}

/-- **A map of answers is read again** from what is written for it if its answers are. -/
theorem value?_toJson {m : AnswerMap}
    (h : ∀ {label a}, m.get? label = some a → a.ReadsIn layout room) :
    value? (room + 1) (.ofJson (layout.apply m.toJson)) = some m.toJson := by
  -- The labels are distinct, so the layout only permutes the fields.
  obtain ⟨fields, hperm, happly⟩ :=
    layout.exists_apply_object (Keyed.nodup_keys (m.mapValues Answer.toJson))
  have hread : fields? room (Document.ofFields (fields.map fun e => (e.1, layout.apply e.2))) =
      some fields := by
    refine Json.Decoder.fields?_ofFields fun e he => ?_
    obtain ⟨entry, hentry, rfl⟩ := List.mem_map.1 (hperm.mem_iff.1 he)
    exact h (Keyed.get?_eq_some_iff.2 hentry)
  have hwritten : m.toJson = .object (m.mapValues Answer.toJson).entries := rfl
  rw [hwritten, happly]
  simp only [Document.ofJson, value?, if_true, hread, Option.map_some, Json.canonical,
    Keyed.ofList_of_perm hperm]

theorem exists_of_mem_fields? {ds : List (Option String × Document)} {js : List (String × Json)}
    (h : fields? room ds = some js) {e : String × Json} (he : e ∈ js) :
    ∃ d, value? room d = some e.2 := by
  induction ds generalizing js with
  | nil =>
    cases h
    cases he
  | cons field ds ih =>
    simp only [fields?] at h
    split at h
    · next name j rest _ hj hrest =>
      cases h
      rcases List.mem_cons.1 he with rfl | he
      · exact ⟨field.2, hj⟩
      · exact ih hrest he
    · cases h

/-- Answers that were read, and retyped, are read again where as many brackets may be opened. -/
theorem value?_toJson_retype {d : Document} {j : Json} {m : AnswerMap}
    (hread : value? room d = some j) (hm : ofJson? j = some m) (criteria : List Criterion)
    {room' : Nat} (hroom : room ≤ room') :
    value? room' (.ofJson (layout.apply (toJson (retype criteria m)))) =
      some (toJson (retype criteria m)) := by
  obtain ⟨fields, rfl, hfields⟩ := exists_of_ofJson? hm
  cases d with
  | object ds closed =>
    obtain ⟨room, js, rfl, -, hjs, hcanonical⟩ := Json.Decoder.exists_of_value?_object hread
    cases hcanonical
    obtain ⟨room', rfl⟩ : ∃ r, room' = r + 1 := ⟨room' - 1, by omega⟩
    refine value?_toJson fun {label a} ha => ?_
    rw [get?_retype] at ha
    obtain ⟨b, hb, rfl⟩ := Option.map_eq_some_iff.1 ha
    obtain ⟨value, hvalue, rfl⟩ := hfields hb
    obtain ⟨d, hd⟩ := exists_of_mem_fields? hjs (Keyed.mem_of_mem_ofList hvalue)
    exact (Answer.readsIn_ofJson layout d hd (Nat.le_of_succ_le_succ hroom)).retypedBy _
  | array items closed =>
    obtain ⟨_, _, -, -, -, hj⟩ := Json.Decoder.exists_of_value?_array hread
    cases hj
  | null => cases hread
  | bool b => cases hread
  | number n => cases n <;> cases hread
  | string s => cases s <;> cases hread
  | broken => cases hread

end AnswerMap

/-! ## Answers and documents -/

/-- **Answers survive documents.**  An answer that is written and read comes back as it was but for
the numbers that are not finite, in the place of which nothing stands, so it comes back unchanged
exactly if it has none of them.  No answer that was read has any, which makes the second reading
give what the first one gave.  Only objects are maps of answers, and a map comes back unchanged
under the same condition.  The retyped answers of a report meet it: as they are handed in again
they say the same map, and wherever the answers before them could be read, they can be read, with
the fields in any order. -/
theorem answers_survive_documents :
    (∀ a : Answer, .ofJson a.toJson = a.finitePart) ∧
    (∀ a : Answer, .ofJson a.toJson = a ↔ a.IsFinite) ∧
    (∀ j : Json, (Answer.ofJson j).IsFinite ∧
      Answer.ofJson (Answer.ofJson j).toJson = Answer.ofJson j) ∧
    (∀ j : Json, (AnswerMap.ofJson? j).isSome = true ↔ ∃ fields, j = .object fields) ∧
    (∀ m : AnswerMap, AnswerMap.ofJson? m.toJson = some m ↔ m.IsFinite) ∧
    ∀ (s : Screener) (request : ScreeningRequest) (doc : Json),
      (s.report request).processedAnswers = some doc →
        ∃ m, (s.screen request.criteria (request.answers.bind AnswerMap.ofJson?)
            request.score).processed = some m ∧
          AnswerMap.ofJson? doc = some m ∧
          ∀ (p : Json.Place) (d : Json.Document) (answers : Json),
            Json.Decoder.json p d = .ok answers → request.answers = some answers →
            ∀ (layout : Json.Layout) (q : Json.Place), p.room ≤ q.room →
              Json.Decoder.json q (.ofJson (layout.apply doc)) = .ok doc := by
  refine ⟨Answer.ofJson_toJson, fun a => ?_, fun j => ⟨Answer.isFinite_ofJson j, ?_⟩,
    fun j => AnswerMap.ofJson?_isSome_iff, fun m => AnswerMap.ofJson?_toJson_eq_iff,
    fun s request doc hdoc => ?_⟩
  · rw [Answer.ofJson_toJson]
    exact Answer.finitePart_eq_iff
  · rw [Answer.ofJson_toJson]
    exact (Answer.isFinite_ofJson j).finitePart_eq
  · obtain ⟨m, hm, rfl⟩ := Option.map_eq_some_iff.1 hdoc
    obtain ⟨submitted, hsubmitted, rfl⟩ := Option.map_eq_some_iff.1 hm
    obtain ⟨j, hj, hmap⟩ := Option.bind_eq_some_iff.1 hsubmitted
    have hfinite := (AnswerMap.isFinite_of_ofJson? hmap).retype request.criteria
    refine ⟨_, hm, AnswerMap.ofJson?_toJson_eq_iff.2 hfinite, ?_⟩
    intro p d answers hread hanswers layout q hroom
    rw [hj, Option.some.injEq] at hanswers
    subst hanswers
    rw [Json.Decoder.json_eq_ok_iff] at hread ⊢
    exact AnswerMap.value?_toJson_retype hread hmap request.criteria hroom

/-- A number that comes as a text, and a list inside a list. -/
def nestedRequest : ScreeningRequest where
  criteria := [⟨"gaji", .number, ">=3", true⟩]
  answers := some (.object [("gaji", .string " 5.0 "),
    ("riwayat", .array [.string "S1", .array [.bool true, .null]])])
  score := none

/-- A number that is not finite is lost with one writing, and a nested list comes back from a
report. -/
theorem answers_survive_documents_nested :
    Answer.ofJson (Answer.list [.list [.number .nan], .text "S1"]).toJson =
      .list [.list [.null], .text "S1"] ∧
    ∃ doc m, (Screener.standard.report nestedRequest).processedAnswers = some doc ∧
      AnswerMap.ofJson? doc = some m ∧
      m.get? "gaji" = some (.number (.ofInt 5)) ∧
      m.get? "riwayat" = some (.list [.text "S1", .list [.flag true, .null]]) ∧
      Json.Decoder.json .ofText (.ofJson (Json.Layout.sorted.apply doc)) = .ok doc := by
  obtain ⟨hback, -, -, -, -, hreport⟩ := answers_survive_documents
  obtain ⟨m, hm, hdoc, hread⟩ := hreport .standard nestedRequest _ rfl
  refine ⟨hback _, _, m, rfl, hdoc, ?_, ?_, ?_⟩
  · cases hm
    have hnumber : (Answer.text " 5.0 ").number? = some (.ofInt 5) := by decide +kernel
    rw [get?_retype]
    change Option.map (Answer.retypedBy [.number]) (some (.text " 5.0 ")) = _
    rw [Option.map_some, Answer.retypedBy_cons, Answer.retyped_number_of_some hnumber,
      Answer.retypedBy_nil]
  · cases hm
    rw [get?_retype]
    rfl
  · exact hread ⟨3, false⟩ (.object [(some "gaji", .string (some " 5.0 ")),
      (some "riwayat", .array [.string (some "S1"), .array [.bool true, .null] true] true)] true)
      _ (by rfl) rfl .sorted .ofText (by decide)

end Hiring
