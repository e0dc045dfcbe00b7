import Hiring.Json.Decoder

/-!
# The order of fields in a document

A value is written with the fields of its objects in a fixed order, but a document may pass through
a map that is sorted by name before it is read again.  So what is proved of written documents is
proved of every layout of them.

* `Layout` — the fields of an object may change places, and nothing else may change.
* `Layout.asWritten`, `Layout.sorted` — the order of writing and the order of the names.
* `Decoder.value?_layout` — **free-form JSON reads back**, in every layout and at any depth at which
  it could be read before.
-/

set_option autoImplicit false

namespace Hiring.Json

/-- A way to lay out a document: the fields of an object may change places, nothing else may. -/
structure Layout where
  /-- The document laid out. -/
  apply : Json → Json
  apply_null : apply .null = .null
  apply_bool (b : Bool) : apply (.bool b) = .bool b
  apply_number (n : Number) : apply (.number n) = .number n
  apply_string (s : String) : apply (.string s) = .string s
  apply_array (items : List Json) : apply (.array items) = .array (items.map apply)
  exists_apply_object {fields : List (String × Json)} (h : (fields.map (·.1)).Nodup) :
    ∃ fields' : List (String × Json), fields'.Perm fields ∧
      apply (.object fields) = .object (fields'.map fun e => (e.1, apply e.2))

namespace Layout

mutual

/-- The value with the fields of each object in the order of their names. -/
def sort : Json → Json
  | .array items => .array (sortItems items)
  | .object fields => canonical (sortValues fields)
  | .null => .null
  | .bool b => .bool b
  | .number n => .number n
  | .string s => .string s

/-- Each item sorted. -/
def sortItems : List Json → List Json
  | [] => []
  | item :: rest => sort item :: sortItems rest

/-- The value of each field sorted. -/
def sortValues : List (String × Json) → List (String × Json)
  | [] => []
  | (name, value) :: rest => (name, sort value) :: sortValues rest

end

theorem sortItems_eq_map (items : List Json) : sortItems items = items.map sort := by
  induction items with
  | nil => rfl
  | cons item rest ih => rw [sortItems, ih, List.map_cons]

theorem sortValues_eq_map (fields : List (String × Json)) :
    sortValues fields = fields.map fun e => (e.1, sort e.2) := by
  induction fields with
  | nil => rfl
  | cons field rest ih => rw [sortValues, ih, List.map_cons]

/-- The fields of each object in the order of their names. -/
def sorted : Layout where
  apply := sort
  apply_null := rfl
  apply_bool _ := rfl
  apply_number _ := rfl
  apply_string _ := rfl
  apply_array items := by rw [sort, sortItems_eq_map]
  exists_apply_object {fields} h := by
    have hperm := Keyed.entries_ofList_perm h
    have hsorted : Keyed.ofList (sortValues fields) = (Keyed.ofList fields).mapValues sort := by
      rw [sortValues_eq_map]
      exact Keyed.ofList_of_perm (hperm.symm.map _)
    exact ⟨_, hperm, by rw [sort, canonical, hsorted]; rfl⟩

end Layout

/-! ## Documents of lists -/

namespace Document

theorem ofItems_eq_map (items : List Json) : ofItems items = items.map ofJson := by
  induction items with
  | nil => rfl
  | cons item rest ih => rw [ofItems, ih, List.map_cons]

theorem ofFields_eq_map (fields : List (String × Json)) :
    ofFields fields = fields.map fun e => (some e.1, ofJson e.2) := by
  induction fields with
  | nil => rfl
  | cons field rest ih => rw [ofFields, ih, List.map_cons]

end Document

/-! ## Free-form values -/

namespace Decoder

/-- What an array was read as: its items, below one bracket. -/
theorem exists_of_value?_array {room : Nat} {items : List Document} {closed : Bool} {j : Json}
    (h : value? room (.array items closed) = some j) :
    ∃ room' js, room = room' + 1 ∧ closed = true ∧ items? room' items = some js ∧
      j = .array js := by
  cases room with
  | zero => cases h
  | succ room =>
    cases closed with
    | false => cases h
    | true =>
      obtain ⟨js, hjs, hj⟩ := Option.map_eq_some_iff.1 h
      exact ⟨room, js, rfl, rfl, hjs, hj.symm⟩

/-- What an object was read as: its fields, below one bracket, the last one of each name. -/
theorem exists_of_value?_object {room : Nat} {fields : List (Option String × Document)}
    {closed : Bool} {j : Json} (h : value? room (.object fields closed) = some j) :
    ∃ room' js, room = room' + 1 ∧ closed = true ∧ fields? room' fields = some js ∧
      j = canonical js := by
  cases room with
  | zero => cases h
  | succ room =>
    cases closed with
    | false => cases h
    | true =>
      obtain ⟨js, hjs, hj⟩ := Option.map_eq_some_iff.1 h
      exact ⟨room, js, rfl, rfl, hjs, hj.symm⟩

/-- Only `null` is read as `null`. -/
theorem eq_null_of_value? {room : Nat} {d : Document} (h : value? room d = some .null) :
    d = .null := by
  cases d with
  | null => rfl
  | bool b => cases h
  | number n => cases n <;> cases h
  | string s => cases s <;> cases h
  | array items closed =>
    obtain ⟨_, _, -, -, -, hj⟩ := exists_of_value?_array h
    cases hj
  | object fields closed =>
    obtain ⟨_, _, -, -, -, hj⟩ := exists_of_value?_object h
    cases hj
  | broken => cases h

/-- Fields are read if their values are. -/
theorem fields?_ofFields {room : Nat} {layout : Layout} {fields : List (String × Json)}
    (h : ∀ e ∈ fields, value? room (.ofJson (layout.apply e.2)) = some e.2) :
    fields? room (Document.ofFields (fields.map fun e => (e.1, layout.apply e.2))) =
      some fields := by
  induction fields with
  | nil => rfl
  | cons field rest ih =>
    simp only [List.map_cons, Document.ofFields, fields?, h field List.mem_cons_self,
      ih fun e he => h e (List.mem_cons_of_mem _ he)]

mutual

/-- **A free-form value that was read is read again**, where there is as much room. -/
theorem value?_layout (layout : Layout) : (d : Document) → {room : Nat} → {j : Json} →
    value? room d = some j → ∀ {room' : Nat}, room ≤ room' →
      value? room' (Document.ofJson (layout.apply j)) = some j
  | .null, _, _, h, _, _ => by
    cases h
    rw [layout.apply_null]
    rfl
  | .bool _, _, _, h, _, _ => by
    cases h
    rw [layout.apply_bool]
    rfl
  | .number (some _), _, _, h, _, _ => by
    cases h
    rw [layout.apply_number]
    rfl
  | .number none, _, _, h, _, _ => by cases h
  | .string (some _), _, _, h, _, _ => by
    cases h
    rw [layout.apply_string]
    rfl
  | .string none, _, _, h, _, _ => by cases h
  | .array items _, _, _, h, room', hroom => by
    obtain ⟨room, js, rfl, rfl, hjs, rfl⟩ := exists_of_value?_array h
    obtain ⟨room', rfl⟩ : ∃ r, room' = r + 1 := ⟨room' - 1, by omega⟩
    have hitems := items?_layout layout items hjs (Nat.le_of_succ_le_succ hroom)
    rw [layout.apply_array]
    simp only [Document.ofJson, value?, if_true, hitems, Option.map_some]
  | .object fields _, _, _, h, room', hroom => by
    obtain ⟨room, js, rfl, rfl, hjs, rfl⟩ := exists_of_value?_object h
    obtain ⟨room', rfl⟩ : ∃ r, room' = r + 1 := ⟨room' - 1, by omega⟩
    have hfields := fields?_layout layout fields hjs (Nat.le_of_succ_le_succ hroom)
    -- The names of the object are distinct now, so the layout only permutes it.
    obtain ⟨fields', hperm, happly⟩ :=
      layout.exists_apply_object (Keyed.nodup_keys (Keyed.ofList js))
    have hread := fields?_ofFields fun e he =>
      hfields e (Keyed.mem_of_mem_ofList (hperm.mem_iff.1 he))
    simp only [canonical] at happly ⊢
    rw [happly]
    simp only [Document.ofJson, value?, if_true, hread, Option.map_some, canonical,
      Keyed.ofList_of_perm hperm]
  | .broken, _, _, h, _, _ => by cases h

theorem items?_layout (layout : Layout) : (ds : List Document) → {room : Nat} →
    {js : List Json} → items? room ds = some js → ∀ {room' : Nat}, room ≤ room' →
      items? room' (Document.ofItems (js.map layout.apply)) = some js
  | [], _, _, h, _, _ => by
    cases h
    rfl
  | d :: ds, room, js, h, room', hroom => by
    simp only [items?] at h
    split at h
    · next j js hj hjs =>
      cases h
      simp only [List.map_cons, Document.ofItems, items?, value?_layout layout d hj hroom,
        items?_layout layout ds hjs hroom]
    · cases h

theorem fields?_layout (layout : Layout) : (ds : List (Option String × Document)) →
    {room : Nat} → {js : List (String × Json)} → fields? room ds = some js → ∀ {room' : Nat},
    room ≤ room' → ∀ e ∈ js, value? room' (.ofJson (layout.apply e.2)) = some e.2
  | [], _, _, h, _, _, e, he => by
    cases h
    cases he
  | (name, d) :: ds, room, js, h, room', hroom, e, he => by
    simp only [fields?] at h
    split at h
    · next name j js hname hj hjs =>
      cases h
      rcases List.mem_cons.1 he with rfl | he
      · exact value?_layout layout d hj hroom
      · exact fields?_layout layout ds hjs hroom e he
    · cases h

end

end Decoder

end Hiring.Json
