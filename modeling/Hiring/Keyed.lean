/-!
# Entries under keys

A finite map from texts to values, kept in the order of its keys.  Answers, stored jobs and stored
applicants are such maps.

* `Keyed` — the entries, with the proof that their keys increase; so there is one map for each
  assignment of values to keys (`Keyed.ext_get?`).
* `Keyed.get?`, `Keyed.insert`, `Keyed.ofList` — look up, put, build; of two values put under one
  key the later one stays.
* `Keyed.get?_insert` — what a look-up sees after a value was put.
* `Keyed.mapEntries`, `Keyed.get?_mapEntries` — each value changed by a function of its key.
* `Keyed.keys_insert_perm_cons`, `Keyed.keys_insert_perm` — the keys after a value was put.
* `Keyed.values_insert_perm_cons`, `Keyed.map_values_insert` — the values after a value was put.
* `Keyed.ofList_of_perm` — the entries of a map make the map again.
-/

namespace Hiring

/-- A finite map whose entries stand in the order of their keys. -/
structure Keyed (α : Type) where
  /-- The keys with their values. -/
  entries : List (String × α)
  /-- Each key is smaller than those after it. -/
  increasing : entries.Pairwise fun a b => a.1 < b.1

namespace Keyed

variable {α : Type}

/-- The map without entries. -/
def empty : Keyed α := ⟨[], .nil⟩

instance : Inhabited (Keyed α) := ⟨empty⟩

/-- The value under a key. -/
def get? (m : Keyed α) (key : String) : Option α := m.entries.lookup key

/-- There is a value under the key. -/
def contains (m : Keyed α) (key : String) : Bool := (m.get? key).isSome

/-- The keys in order. -/
def keys (m : Keyed α) : List String := m.entries.map (·.1)

/-- The values in the order of their keys. -/
def values (m : Keyed α) : List α := m.entries.map (·.2)

/-- The number of entries. -/
def size (m : Keyed α) : Nat := m.entries.length

/-- There are no entries. -/
def isEmpty (m : Keyed α) : Bool := m.entries.isEmpty

/-! ## Putting a value -/

/-- The entries with a value put at its place. -/
def put (key : String) (value : α) : List (String × α) → List (String × α)
  | [] => [(key, value)]
  | (k, v) :: rest =>
    if key < k then (key, value) :: (k, v) :: rest
    else if key = k then (key, value) :: rest
    else (k, v) :: put key value rest

theorem mem_put {key : String} {value : α} {entries : List (String × α)} {e : String × α}
    (h : e ∈ put key value entries) : e = (key, value) ∨ e ∈ entries := by
  induction entries with
  | nil => simpa [put] using h
  | cons head rest ih =>
    obtain ⟨k, v⟩ := head
    simp only [put] at h
    split at h
    · simpa using h
    · split at h
      · rcases List.mem_cons.1 h with h | h <;> simp [h]
      · rcases List.mem_cons.1 h with h | h
        · simp [h]
        · rcases ih h with h | h <;> simp [h]

theorem put_increasing (key : String) (value : α) {entries : List (String × α)}
    (h : entries.Pairwise fun a b => a.1 < b.1) :
    (put key value entries).Pairwise fun a b => a.1 < b.1 := by
  induction entries with
  | nil => simp [put]
  | cons head rest ih =>
    obtain ⟨k, v⟩ := head
    have hk := (List.pairwise_cons.1 h).1
    simp only [put]
    split
    · rename_i hlt
      refine List.pairwise_cons.2 ⟨fun e he => ?_, h⟩
      rcases List.mem_cons.1 he with rfl | he
      · exact hlt
      · exact String.lt_trans hlt (hk e he)
    · split
      · rename_i heq
        subst heq
        exact List.pairwise_cons.2 ⟨hk, (List.pairwise_cons.1 h).2⟩
      · rename_i hlt hne
        refine List.pairwise_cons.2 ⟨fun e he => ?_, ih (List.pairwise_cons.1 h).2⟩
        rcases mem_put he with rfl | he
        · rcases String.le_total key k with hle | hle
          · exact absurd (String.le_antisymm hle (String.not_lt.1 hlt)) hne
          · exact Decidable.byContradiction fun hn =>
              hne (String.le_antisymm (String.not_lt.1 hn) hle)
        · exact hk e he

/-- The map with a value put under a key, in place of the value that was there. -/
def insert (m : Keyed α) (key : String) (value : α) : Keyed α :=
  ⟨put key value m.entries, put_increasing key value m.increasing⟩

/-- The map of some entries; of two values under one key the later one stays. -/
def ofList (entries : List (String × α)) : Keyed α :=
  entries.foldl (fun m e => m.insert e.1 e.2) empty

/-- Each value changed by a function, under the same keys. -/
def mapValues {β : Type} (f : α → β) (m : Keyed α) : Keyed β :=
  ⟨m.entries.map fun e => (e.1, f e.2), List.pairwise_map.2 m.increasing⟩

/-- Each value changed by a function of its key, under the same keys. -/
def mapEntries {β : Type} (f : String → α → β) (m : Keyed α) : Keyed β :=
  ⟨m.entries.map fun e => (e.1, f e.1 e.2), List.pairwise_map.2 m.increasing⟩

/-- The value under a key changed by a function, if there is one. -/
def modify (m : Keyed α) (key : String) (f : α → α) : Keyed α :=
  match m.get? key with
  | some value => m.insert key (f value)
  | none => m

/-! ## Looking up -/

theorem lookup_cons_eq (k : String) (e : String × α) (rest : List (String × α)) :
    (e :: rest).lookup k = if k = e.1 then some e.2 else rest.lookup k := by
  rw [show e = (e.1, e.2) from rfl, List.lookup_cons]
  by_cases h : k = e.1
  · simp [h]
  · simp [beq_false_of_ne h, h]

theorem lookup_put (key : String) (value : α) (k : String) (entries : List (String × α)) :
    (put key value entries).lookup k = if k = key then some value else entries.lookup k := by
  induction entries with
  | nil => simp [put, lookup_cons_eq]
  | cons head rest ih =>
    obtain ⟨k', v⟩ := head
    simp only [put]
    split
    · rw [lookup_cons_eq]
    · split
      · rename_i heq
        subst heq
        simp only [lookup_cons_eq]
        split <;> rfl
      · rename_i hne
        simp only [lookup_cons_eq, ih]
        by_cases h : k = k'
        · subst h
          rw [if_pos rfl, if_neg fun e => hne e.symm, if_pos rfl]
        · simp [h]

/-- After a value was put, a look-up sees it under its key and the old values elsewhere. -/
theorem get?_insert (m : Keyed α) (key : String) (value : α) (k : String) :
    (m.insert key value).get? k = if k = key then some value else m.get? k :=
  lookup_put key value k m.entries

@[simp] theorem get?_insert_self (m : Keyed α) (key : String) (value : α) :
    (m.insert key value).get? key = some value := by
  simp [get?_insert]

theorem get?_insert_of_ne (m : Keyed α) {key k : String} (value : α) (h : k ≠ key) :
    (m.insert key value).get? k = m.get? k := by
  simp [get?_insert, h]

@[simp] theorem get?_empty (key : String) : (empty : Keyed α).get? key = none := rfl

/-- A look-up finds exactly the entries. -/
theorem get?_eq_some_iff {m : Keyed α} {key : String} {value : α} :
    m.get? key = some value ↔ (key, value) ∈ m.entries := by
  obtain ⟨entries, increasing⟩ := m
  change entries.lookup key = some value ↔ (key, value) ∈ entries
  induction entries with
  | nil => simp
  | cons head rest ih =>
    obtain ⟨k, v⟩ := head
    have hrest := (List.pairwise_cons.1 increasing)
    by_cases h : key = k
    · subst h
      have hnot : (key, value) ∉ rest := fun he => String.lt_irrefl key (hrest.1 _ he)
      simp [hnot, eq_comm]
    · simp [lookup_cons_eq, h, ih hrest.2]

theorem contains_of_get? {m : Keyed α} {key : String} {value : α} (h : m.get? key = some value) :
    m.contains key = true := by
  rw [contains, h]
  rfl

theorem not_contains_of_get? {m : Keyed α} {key : String} (h : m.get? key = none) :
    ¬ m.contains key = true := by
  rw [contains, h]
  exact Bool.false_ne_true

/-- A look-up among changed values finds the changed value. -/
theorem get?_mapEntries {β : Type} (f : String → α → β) (m : Keyed α) (key : String) :
    (m.mapEntries f).get? key = (m.get? key).map (f key) := by
  obtain ⟨entries, increasing⟩ := m
  change (entries.map fun e => (e.1, f e.1 e.2)).lookup key = (entries.lookup key).map (f key)
  clear increasing
  induction entries with
  | nil => rfl
  | cons e rest ih =>
    rw [List.map_cons, lookup_cons_eq, lookup_cons_eq, ih]
    split
    · next h => rw [h, Option.map_some]
    · rfl

/-! ## The keys -/

@[simp] theorem keys_mapEntries {β : Type} (f : String → α → β) (m : Keyed α) :
    (m.mapEntries f).keys = m.keys := by
  rw [keys, mapEntries, List.map_map]
  rfl

theorem mem_keys_iff {m : Keyed α} {key : String} : key ∈ m.keys ↔ m.contains key = true := by
  rw [keys, contains, Option.isSome_iff_exists, List.mem_map]
  constructor
  · rintro ⟨e, he, rfl⟩
    exact ⟨e.2, get?_eq_some_iff.2 he⟩
  · rintro ⟨value, h⟩
    exact ⟨(key, value), get?_eq_some_iff.1 h, rfl⟩

theorem get?_eq_none_of_not_mem_keys {m : Keyed α} {key : String} (h : key ∉ m.keys) :
    m.get? key = none := by
  rw [mem_keys_iff, contains, Option.not_isSome_iff_eq_none] at h
  exact h

theorem mem_keys_insert {m : Keyed α} {key k : String} {value : α} :
    k ∈ (m.insert key value).keys ↔ k = key ∨ k ∈ m.keys := by
  rw [mem_keys_iff, mem_keys_iff, contains, contains, get?_insert]
  by_cases h : k = key <;> simp [h]

/-- No key occurs twice. -/
theorem nodup_keys (m : Keyed α) : m.keys.Nodup := by
  refine List.pairwise_map.2 (m.increasing.imp ?_)
  intro a b hlt he
  rw [he] at hlt
  exact String.lt_irrefl _ hlt

theorem nodup_of_nodup_keys {entries : List (String × α)} (hnodup : (entries.map (·.1)).Nodup) :
    entries.Nodup :=
  (List.pairwise_map.1 hnodup).imp fun hne he => hne (congrArg Prod.fst he)

/-- A value under a key that was not in use is one entry more. -/
theorem entries_insert_perm_cons {m : Keyed α} {key : String} (h : m.get? key = none) (value : α) :
    (m.insert key value).entries.Perm ((key, value) :: m.entries) := by
  have hnew : (key, value) ∉ m.entries := by
    rw [← get?_eq_some_iff, h]
    exact nofun
  refine (List.perm_ext_iff_of_nodup (nodup_of_nodup_keys (nodup_keys _))
    (List.nodup_cons.2 ⟨hnew, nodup_of_nodup_keys (nodup_keys m)⟩)).2 ?_
  rintro ⟨k, v⟩
  rw [List.mem_cons, ← get?_eq_some_iff, ← get?_eq_some_iff, get?_insert]
  by_cases hk : k = key
  · subst hk
    simp [h, eq_comm]
  · simp [hk]

/-- A value under a key that was not in use brings in just this key. -/
theorem keys_insert_perm_cons {m : Keyed α} {key : String} (h : m.get? key = none) (value : α) :
    (m.insert key value).keys.Perm (key :: m.keys) :=
  (entries_insert_perm_cons h value).map Prod.fst

/-- A value in place of another one leaves the keys as they are. -/
theorem keys_insert_perm {m : Keyed α} {key : String} (h : m.contains key = true) (value : α) :
    (m.insert key value).keys.Perm m.keys := by
  refine (List.perm_ext_iff_of_nodup (nodup_keys _) (nodup_keys m)).2 fun k => ?_
  rw [mem_keys_insert]
  constructor
  · rintro (rfl | hk)
    · exact mem_keys_iff.2 h
    · exact hk
  · exact .inr

/-! ## Equality of maps -/

theorem entries_eq_of_lookup {a b : List (String × α)}
    (ha : a.Pairwise fun x y => x.1 < y.1) (hb : b.Pairwise fun x y => x.1 < y.1)
    (h : ∀ k v, (k, v) ∈ a ↔ (k, v) ∈ b) : a = b := by
  induction a generalizing b with
  | nil =>
    cases b with
    | nil => rfl
    | cons e _ => exact absurd ((h e.1 e.2).2 (by simp)) (by simp)
  | cons x a ih =>
    cases b with
    | nil => exact absurd ((h x.1 x.2).1 (by simp)) (by simp)
    | cons y b =>
      have hxa := List.pairwise_cons.1 ha
      have hyb := List.pairwise_cons.1 hb
      have hx : x = y := by
        rcases List.mem_cons.1 ((h x.1 x.2).1 (by simp)) with hx | hx
        · exact hx
        · rcases List.mem_cons.1 ((h y.1 y.2).2 (by simp)) with hy | hy
          · exact hy.symm
          · exact absurd (hyb.1 _ hx) (String.lt_asymm (hxa.1 _ hy))
      subst hx
      congr 1
      refine ih hxa.2 hyb.2 fun k v => ?_
      constructor
      · intro hm
        rcases List.mem_cons.1 ((h k v).1 (by simp [hm])) with he | hm'
        · exact absurd (hxa.1 _ hm) (by rw [← he]; exact String.lt_irrefl _)
        · exact hm'
      · intro hm
        rcases List.mem_cons.1 ((h k v).2 (by simp [hm])) with he | hm'
        · exact absurd (hyb.1 _ hm) (by rw [← he]; exact String.lt_irrefl _)
        · exact hm'

/-- **A map is what its look-ups give.** -/
theorem ext_get? {m n : Keyed α} (h : ∀ key, m.get? key = n.get? key) : m = n := by
  obtain ⟨a, ha⟩ := m
  obtain ⟨b, hb⟩ := n
  have : a = b := entries_eq_of_lookup ha hb fun k v => by
    have := h k
    rw [← get?_eq_some_iff (m := ⟨a, ha⟩), ← get?_eq_some_iff (m := ⟨b, hb⟩), this]
  subst this
  rfl

/-! ## The values -/

theorem mem_values_of_get? {m : Keyed α} {key : String} {value : α}
    (h : m.get? key = some value) : value ∈ m.values :=
  List.mem_map.2 ⟨(key, value), get?_eq_some_iff.1 h, rfl⟩

/-- A value under a key that was not in use is one more. -/
theorem values_insert_perm_cons {m : Keyed α} {key : String} (h : m.get? key = none) (value : α) :
    (m.insert key value).values.Perm (value :: m.values) :=
  (entries_insert_perm_cons h value).map Prod.snd

/-- Values that stand under what they are called by are called by the keys. -/
theorem map_values_eq_keys {m : Keyed α} {name : α → String}
    (h : ∀ {key value}, m.get? key = some value → name value = key) :
    m.values.map name = m.keys := by
  rw [values, keys, List.map_map]
  exact List.map_congr_left fun e he => h (get?_eq_some_iff.2 he)

/-- A value in place of another one leaves all values as they are, seen through what the two have
in common. -/
theorem map_values_insert {β : Type} {m : Keyed α} {key : String} {old new : α} {f : α → β}
    (h : m.get? key = some old) (hf : f new = f old) :
    (m.insert key new).values.map f = m.values.map f := by
  have hmap : (m.insert key new).mapEntries (fun _ => f) = m.mapEntries fun _ => f := by
    refine ext_get? fun k => ?_
    rw [get?_mapEntries, get?_mapEntries, get?_insert]
    split
    · next hk => rw [hk, h, Option.map_some, Option.map_some, hf]
    · rfl
  have hvalues (n : Keyed α) : n.values.map f = (n.mapEntries fun _ => f).values := by
    rw [values, values, mapEntries, List.map_map, List.map_map]
    rfl
  rw [hvalues, hvalues, hmap]

/-! ## Building a map -/

theorem mem_foldl_insert {entries : List (String × α)} {m : Keyed α} {e : String × α}
    (h : e ∈ (entries.foldl (fun m e => m.insert e.1 e.2) m).entries) :
    e ∈ entries ∨ e ∈ m.entries := by
  induction entries generalizing m with
  | nil => exact .inr h
  | cons head rest ih =>
    rcases ih h with h | h
    · exact .inl (List.mem_cons_of_mem _ h)
    · rcases mem_put h with rfl | h
      · exact .inl List.mem_cons_self
      · exact .inr h

theorem mem_of_mem_ofList {entries : List (String × α)} {e : String × α}
    (h : e ∈ (ofList entries).entries) : e ∈ entries :=
  (mem_foldl_insert h).resolve_right List.not_mem_nil

theorem get?_foldl_insert_of_not_mem {entries : List (String × α)} (m : Keyed α) {key : String}
    (h : key ∉ entries.map (·.1)) :
    (entries.foldl (fun m e => m.insert e.1 e.2) m).get? key = m.get? key := by
  induction entries generalizing m with
  | nil => rfl
  | cons head rest ih =>
    rw [List.map_cons, List.mem_cons, not_or] at h
    rw [List.foldl_cons, ih _ h.2, get?_insert_of_ne _ _ h.1]

theorem get?_foldl_insert_of_mem {entries : List (String × α)} (m : Keyed α) {e : String × α}
    (hnodup : (entries.map (·.1)).Nodup) (he : e ∈ entries) :
    (entries.foldl (fun m e => m.insert e.1 e.2) m).get? e.1 = some e.2 := by
  induction entries generalizing m with
  | nil => cases he
  | cons head rest ih =>
    rw [List.map_cons, List.nodup_cons] at hnodup
    rcases List.mem_cons.1 he with rfl | he
    · rw [List.foldl_cons, get?_foldl_insert_of_not_mem _ hnodup.1, get?_insert_self]
    · exact ih _ hnodup.2 he

/-- If no key is used twice, the map has exactly the given entries. -/
theorem mem_ofList_iff {entries : List (String × α)} (hnodup : (entries.map (·.1)).Nodup)
    {e : String × α} : e ∈ (ofList entries).entries ↔ e ∈ entries :=
  ⟨mem_of_mem_ofList, fun he => get?_eq_some_iff.1 (get?_foldl_insert_of_mem _ hnodup he)⟩

/-- If no key is used twice, the map has the given entries in the order of their keys. -/
theorem entries_ofList_perm {entries : List (String × α)} (hnodup : (entries.map (·.1)).Nodup) :
    (ofList entries).entries.Perm entries :=
  (List.perm_ext_iff_of_nodup (nodup_of_nodup_keys (nodup_keys (ofList entries)))
    (nodup_of_nodup_keys hnodup)).2 fun _ => mem_ofList_iff hnodup

/-- The entries of a map make the map again, in any order. -/
theorem ofList_of_perm {entries : List (String × α)} {m : Keyed α} (h : entries.Perm m.entries) :
    ofList entries = m := by
  have hnodup : (entries.map (·.1)).Nodup := (h.map _).nodup_iff.2 (nodup_keys m)
  refine ext_get? fun key => Option.ext fun value => ?_
  rw [get?_eq_some_iff, get?_eq_some_iff, mem_ofList_iff hnodup, h.mem_iff]

instance [DecidableEq α] : DecidableEq (Keyed α) := fun m n =>
  decidable_of_iff (m.entries = n.entries) (by cases m; cases n; simp)

instance [BEq α] : BEq (Keyed α) := ⟨fun m n => m.entries == n.entries⟩

instance [Repr α] : Repr (Keyed α) := ⟨fun m p => reprPrec m.entries p⟩

end Keyed

end Hiring
