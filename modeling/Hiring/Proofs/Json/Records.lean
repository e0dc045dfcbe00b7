import Hiring.Json.Fields
import Hiring.Proofs.Json.ReadBack

/-!
# Records read back

A record is read from an object in any order of its fields, or from an array of them, with some
fields under a second name or left out.  It is written as an object of all its fields.  The decoder
of a record is put together field by field, and so is the proof that it reads back.

* `Fields.Rereads` — some written fields give the record again.
* `Fields.ReadsBack` — whatever record the fields have made, its written fields give it again; a
  relation ties the record to what is written for it.
* `Fields.readsBack_pure`, `Fields.ReadsBack.seq`, `Fields.readsBack_required`,
  `Fields.readsBack_nullable`, `Fields.readsBack_defaulted` — the parts of such a description.
* `Decoder.readsBack_record` — **a record reads back if its fields do** and no two of them share a
  name.
-/

set_option autoImplicit false

namespace Hiring.Json

variable {α β : Type} {layout : Layout} {room : Nat}

namespace Fields

/-- Some written fields are the fields of the record in their order, each passes the check of its
field, and the record is made of them again. -/
structure Rereads (layout : Layout) (fs : Fields α) (x : α) (written : List (String × Json))
    (q : Place) : Prop where
  names : written.map (·.1) = fs.fields.map (·.name)
  checks : ∀ e ∈ written, ∃ f ∈ fs.fields, f.name = e.1 ∧
    f.check q (.ofJson (layout.apply e.2)) = .ok ()
  build {s : Slots} (hplace : s.place = q)
    (hget : ∀ e ∈ written, s.get? e.1 = some (.ofJson (layout.apply e.2))) : fs.build s = .ok x

/-- Whatever the fields have been made into, there are fields written for it that give it again. -/
structure ReadsBack (layout : Layout) (room : Nat) (fs : Fields α)
    (writes : α → List (String × Json) → Prop) : Prop where
  exists_written {s : Slots} {x : α} (h : fs.build s = .ok x) : ∃ written, writes x written ∧
    ∀ {q : Place}, s.place.room ≤ q.room → room ≤ q.room → fs.Rereads layout x written q

/-- One field is written under a name. -/
def WritesOne (name : String) (encode : α → Json) (x : α) (written : List (String × Json)) : Prop :=
  written = [(name, encode x)]

/-! ## Descriptions of records -/

theorem readsBack_pure {x : α} {writes : α → List (String × Json) → Prop} (h : writes x []) :
    ReadsBack layout room (pure x : Fields α) writes := by
  refine ⟨fun {s y} hy => ?_⟩
  cases hy
  exact ⟨[], h, fun _ _ => ⟨rfl, nofun, fun _ _ => rfl⟩⟩

/-- One more field: what it writes is put behind what was written before. -/
theorem ReadsBack.seq {f : Fields (α → β)} {a : Fields α} {name : String} {encode : α → Json}
    {writes : β → List (String × Json) → Prop}
    (hf : ReadsBack layout room f fun g written =>
      ∀ y, writes (g y) (written ++ [(name, encode y)]))
    (ha : ReadsBack layout room a (WritesOne name encode)) :
    ReadsBack layout room (f <*> a) writes := by
  refine ⟨fun {s x} hx => ?_⟩
  obtain ⟨g, hg, hx⟩ := bind_eq_ok_iff.1 hx
  obtain ⟨y, hy, hx⟩ := bind_eq_ok_iff.1 hx
  cases hx
  obtain ⟨before, hwrites, hbefore⟩ := hf.exists_written hg
  obtain ⟨_, rfl, hlast⟩ := ha.exists_written hy
  refine ⟨_, hwrites y, fun hq hroom => ⟨?_, fun e he => ?_, fun hplace hget => ?_⟩⟩
  · exact List.map_append.trans
      ((congrArg₂ _ (hbefore hq hroom).names (hlast hq hroom).names).trans List.map_append.symm)
  · rcases List.mem_append.1 he with he | he
    · obtain ⟨f, hf, hcheck⟩ := (hbefore hq hroom).checks e he
      exact ⟨f, List.mem_append_left _ hf, hcheck⟩
    · obtain ⟨f, hf, hcheck⟩ := (hlast hq hroom).checks e he
      exact ⟨f, List.mem_append_right _ hf, hcheck⟩
  · have hg' := (hbefore hq hroom).build hplace fun e he => hget e (List.mem_append_left _ he)
    have hy' := (hlast hq hroom).build hplace fun e he => hget e (List.mem_append_right _ he)
    exact bind_eq_ok_iff.2 ⟨g, hg', bind_eq_ok_iff.2 ⟨y, hy', rfl⟩⟩

/-- The first field, to which a constructor is applied. -/
theorem ReadsBack.map {g : α → β} {a : Fields α} {name : String} {encode : α → Json}
    {writes : β → List (String × Json) → Prop} (h : ∀ y, writes (g y) [(name, encode y)])
    (ha : ReadsBack layout room a (WritesOne name encode)) :
    ReadsBack layout room (g <$> a) writes :=
  (readsBack_pure h).seq ha

/-- One field reads back if its values do, also the value that stands for its absence. -/
theorem readsBack_single {name : String} {decode : Decoder α} {encode : α → Json}
    {without : Slots → Except Fault α} (h : decode.ReadsBack layout room encode)
    (hwithout : ∀ {s x}, without s = .ok x → decode.CanRead room x) :
    ReadsBack layout room (single name decode without) (WritesOne name encode) := by
  refine ⟨fun {s x} hx => ⟨_, rfl, fun {q} hq hroom => ?_⟩⟩
  have hread : decode q (.ofJson (layout.apply (encode x))) = .ok x := by
    simp only [single] at hx
    split at hx
    · exact h.read hx hq hroom
    · obtain ⟨p, d, hp, hd⟩ := hwithout hx
      exact h.read hd (Nat.le_trans hp hroom) hroom
  refine ⟨rfl, fun e he => ?_, fun hplace hget => ?_⟩
  · rw [List.mem_singleton.1 he]
    exact ⟨_, List.mem_singleton.2 rfl, rfl, map_eq_ok_iff.2 ⟨x, hread, rfl⟩⟩
  · simp only [single, hget _ List.mem_cons_self, hplace, hread]

theorem readsBack_required {name : String} {decode : Decoder α} {encode : α → Json}
    (h : decode.ReadsBack layout room encode) :
    ReadsBack layout room (required name decode) (WritesOne name encode) := by
  refine readsBack_single h fun {s x} hx => ?_
  cases hx

theorem readsBack_nullable {name : String} {decode : Decoder α} {encode : Option α → Json}
    (h : decode.optional.ReadsBack layout room encode) :
    ReadsBack layout room (nullable name decode) (WritesOne name encode) := by
  refine readsBack_single h fun {s x} hx => ?_
  split at hx
  · cases hx
  · cases hx
    exact Decoder.canRead_none decode

/-- A field with a default reads back if the default could have been read. -/
theorem readsBack_defaulted {name : String} {decode : Decoder α} {encode : α → Json} {value : α}
    (h : decode.ReadsBack layout room encode)
    (hvalue : decode.CanRead room value) :
    ReadsBack layout room (defaulted name decode value) (WritesOne name encode) := by
  refine readsBack_single h fun {s x} hx => ?_
  cases hx
  exact hvalue

/-- A second name is for reading only. -/
theorem ReadsBack.orNamed {fs : Fields α} {writes : α → List (String × Json) → Prop}
    (h : ReadsBack layout room fs writes) (name : String) :
    ReadsBack layout room (fs.orNamed name) writes := by
  refine ⟨fun {s x} hx => ?_⟩
  obtain ⟨written, hwrites, hread⟩ := h.exists_written hx
  refine ⟨written, hwrites, fun hq hroom => ?_⟩
  obtain ⟨hnames, hchecks, hbuild⟩ := hread hq hroom
  unfold Fields.orNamed
  cases hfs : fs.fields with
  | nil => exact ⟨by simp [hnames, hfs], by simpa [hfs] using hchecks, hbuild⟩
  | cons f rest => exact ⟨by simp [hnames, hfs], by simpa [hfs] using hchecks, hbuild⟩

/-! ## Objects -/

/-- All names by which fields go. -/
def allNames (fields : List Field) : List String :=
  fields.flatMap fun f => f.name :: f.otherName.toList

theorem find?_of_mem {fields : List Field} (hnodup : (allNames fields).Nodup) {f : Field}
    (hf : f ∈ fields) : find? fields f.name = some f := by
  induction fields with
  | nil => cases hf
  | cons g rest ih =>
    obtain ⟨-, hrest, hdisjoint⟩ := List.nodup_append.1 hnodup
    rcases List.mem_cons.1 hf with rfl | hf
    · simp [find?]
    · have hmem : f.name ∈ allNames rest := List.mem_flatMap.2 ⟨f, hf, List.mem_cons_self⟩
      have hname : g.name ≠ f.name := fun he => hdisjoint _ (by simp) _ hmem he
      have hother : g.otherName ≠ some f.name := fun he =>
        hdisjoint f.name (by simp [he]) _ hmem rfl
      have hfind := ih hrest hf
      simpa [find?, hname, hother] using hfind

theorem lookup_of_mem {γ : Type} {l : List (String × γ)} (hnodup : (l.map (·.1)).Nodup)
    {e : String × γ} (he : e ∈ l) : l.lookup e.1 = some e.2 := by
  induction l with
  | nil => cases he
  | cons head rest ih =>
    rw [List.map_cons, List.nodup_cons] at hnodup
    rw [Keyed.lookup_cons_eq]
    rcases List.mem_cons.1 he with rfl | he
    · rw [if_pos rfl]
    · have hne : e.1 ≠ head.1 := fun heq => hnodup.1 (heq ▸ List.mem_map_of_mem he)
      rw [if_neg hne, ih hnodup.2 he]

/-- The fields of an object are gathered if each is known, is met once and passes its check. -/
theorem gather_map {fields : List Field} {inside : Place} {l seen : List (String × Document)}
    (hl : ∀ e ∈ l, ∃ f, find? fields e.1 = some f ∧ f.name = e.1 ∧ f.check inside e.2 = .ok ())
    (hnodup : (l.map (·.1)).Nodup) (hseen : ∀ e ∈ l, seen.lookup e.1 = none) :
    gather fields inside seen (l.map fun e => (some e.1, e.2)) = .ok (l.reverse ++ seen) := by
  induction l generalizing seen with
  | nil => rfl
  | cons e l ih =>
    rw [List.map_cons, List.nodup_cons] at hnodup
    obtain ⟨f, hfind, hname, hcheck⟩ := hl e List.mem_cons_self
    have hnew := hseen e List.mem_cons_self
    have hlater : ∀ e' ∈ l, (e :: seen).lookup e'.1 = none := fun e' he' => by
      have hne : e'.1 ≠ e.1 := fun heq => hnodup.1 (heq ▸ List.mem_map_of_mem he')
      rw [Keyed.lookup_cons_eq, if_neg hne, hseen e' (List.mem_cons_of_mem _ he')]
    have hrest := ih (fun e he => hl e (List.mem_cons_of_mem _ he)) hnodup.2 hlater
    simp only [List.map_cons, gather, hfind, hname, hnew, Option.isSome_none, Bool.false_eq_true,
      if_false, hcheck, hrest, List.reverse_cons, List.append_assoc, List.cons_append,
      List.nil_append]

theorem nodup_names {fields : List Field} (h : (allNames fields).Nodup) :
    (fields.map (·.name)).Nodup := by
  induction fields with
  | nil => exact .nil
  | cons f rest ih =>
    obtain ⟨-, hrest, hdisjoint⟩ := List.nodup_append.1 h
    refine List.nodup_cons.2 ⟨fun hmem => ?_, ih hrest⟩
    obtain ⟨g, hg, hname⟩ := List.mem_map.1 hmem
    exact hdisjoint f.name List.mem_cons_self g.name
      (List.mem_flatMap.2 ⟨g, hg, List.mem_cons_self⟩) hname.symm

/-- The documents of written fields. -/
def documents (layout : Layout) (written : List (String × Json)) : List (String × Document) :=
  written.map fun e => (e.1, .ofJson (layout.apply e.2))

theorem ofFields_map (layout : Layout) (written : List (String × Json)) :
    Document.ofFields (written.map fun e => (e.1, layout.apply e.2)) =
      (documents layout written).map fun e => (some e.1, e.2) := by
  rw [Document.ofFields_eq_map, documents, List.map_map, List.map_map]
  rfl

theorem map_fst_documents (layout : Layout) (written : List (String × Json)) :
    (documents layout written).map (·.1) = written.map (·.1) := by
  rw [documents, List.map_map]
  rfl

/-- The written fields of a record, in any order, make the record. -/
theorem Rereads.fromObject {fs : Fields α} {x : α} {written written' : List (String × Json)}
    {q : Place} (h : fs.Rereads layout x written q) (hnames : (allNames fs.fields).Nodup)
    (hperm : written'.Perm written) :
    fs.fromObject q (Document.ofFields (written'.map fun e => (e.1, layout.apply e.2))) true =
      .ok x := by
  have hnodup : ((documents layout written').map (·.1)).Nodup := by
    rw [map_fst_documents, (hperm.map _).nodup_iff, h.names]
    exact nodup_names hnames
  have hknown : ∀ e ∈ documents layout written', ∃ f, find? fs.fields e.1 = some f ∧
      f.name = e.1 ∧ f.check q e.2 = .ok () := by
    intro e he
    obtain ⟨field, hfield, rfl⟩ := List.mem_map.1 he
    obtain ⟨f, hf, hname, hcheck⟩ := h.checks field (hperm.mem_iff.1 hfield)
    exact ⟨f, hname ▸ find?_of_mem hnames hf, hname, hcheck⟩
  have hgather := gather_map hknown hnodup fun e _ => List.lookup_nil
  rw [List.append_nil] at hgather
  rw [Fields.fromObject, ofFields_map, hgather]
  refine h.build rfl fun e he => ?_
  -- What was gathered stands in reverse order, and a name is met only once.
  have hreverse := (List.reverse_perm (documents layout written')).map (·.1)
  have hmem : (e.1, Document.ofJson (layout.apply e.2)) ∈ (documents layout written').reverse :=
    List.mem_reverse.2 (List.mem_map.2 ⟨e, hperm.mem_iff.2 he, rfl⟩)
  exact lookup_of_mem (hreverse.nodup_iff.2 hnodup) hmem

/-- A record that was read was made of the documents of its fields, inside one bracket. -/
theorem exists_build_of_record {kind : String} {fs : Fields α} {p : Place} {d : Document} {x : α}
    (h : Decoder.record kind fs p d = .ok x) :
    ∃ s, fs.build s = .ok x ∧ p.room = s.place.room + 1 := by
  unfold Decoder.record at h
  split at h
  · obtain ⟨inside, hinside, h⟩ := bind_eq_ok_iff.1 h
    obtain ⟨seen, -, h⟩ := bind_eq_ok_iff.1 h
    have hp := Place.room_of_enter hinside
    split at h
    · exact ⟨_, h, hp⟩
    · cases h
  · obtain ⟨inside, hinside, h⟩ := bind_eq_ok_iff.1 h
    obtain ⟨y, hy, h⟩ := bind_eq_ok_iff.1 h
    have hp := Place.room_of_enter hinside
    split at h
    · cases h
    · split at h
      · cases h
        exact ⟨_, hy, hp⟩
      · cases h
  · cases h

end Fields

/-- **A record reads back if its fields do** and no two of them share a name. -/
theorem Decoder.readsBack_record {kind : String} {fs : Fields α} {encode : α → Json}
    (h : fs.ReadsBack layout room fun x written => encode x = .object written)
    (hnames : (Fields.allNames fs.fields).Nodup) :
    (Decoder.record kind fs).ReadsBack layout (room + 1) encode := by
  refine ⟨fun {p d x} hx {q} hpq hroom => ?_⟩
  obtain ⟨s, hbuild, hp⟩ := Fields.exists_build_of_record hx
  obtain ⟨written, hwritten, hread⟩ := h.exists_written hbuild
  obtain ⟨inside, hinside, hroom'⟩ := Place.exists_enter hroom
  have hq := Place.room_of_enter hinside
  have hreread := hread (show s.place.room ≤ inside.room by omega) hroom'
  obtain ⟨written', hperm, happly⟩ := layout.exists_apply_object
    (show (written.map (·.1)).Nodup by
      rw [hreread.names]
      exact Fields.nodup_names hnames)
  rw [hwritten, happly]
  exact bind_eq_ok_iff.2 ⟨inside, hinside, hreread.fromObject hnames hperm⟩

end Hiring.Json
