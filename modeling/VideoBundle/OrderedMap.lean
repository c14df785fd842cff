import VideoBundle.Distinct

/-!
# Ordered maps

A finite map that remembers the order in which its keys came.  Inserting under a key that is present
replaces the value and keeps the place; a new key goes to the end.

Main results:

- `find?_insert`, `find?_erase`, `find?_overlay`: what each operation does to a look-up.
- `mem_entries_iff`, `mem_keys_iff`: entries and keys through look-ups.
- `keys_insert`, `keys_erase`, `keys_overlay`: what each operation does to the order of the keys.
- `ext_keys`: keys in order and look-ups determine a map.
- `keys_perm_of_find?_eq`: look-ups determine the keys, but not their order.
-/

namespace VideoBundle

/-! ## Entry lists -/

/-- The value of the first entry with a key. -/
def lookupEntry {κ υ : Type} [DecidableEq κ] (key : κ) : List (κ × υ) → Option υ
  | [] => none
  | (k, v) :: entries => if k = key then some v else lookupEntry key entries

/-- The entries with the value under a key replaced, or with a new entry at the end. -/
def insertEntry {κ υ : Type} [DecidableEq κ] (key : κ) (value : υ) :
    List (κ × υ) → List (κ × υ)
  | [] => [(key, value)]
  | (k, v) :: entries =>
      if k = key then (key, value) :: entries else (k, v) :: insertEntry key value entries

/-- The entries without those under a key. -/
def eraseEntry {κ υ : Type} [DecidableEq κ] (key : κ) (entries : List (κ × υ)) : List (κ × υ) :=
  entries.filter fun entry => entry.1 ≠ key

/-- Entries with the later of two values under one key, at the place of the first. -/
def collapseEntries {κ υ : Type} [DecidableEq κ] (entries : List (κ × υ)) : List (κ × υ) :=
  entries.foldl (fun done entry => insertEntry entry.1 entry.2 done) []

section EntryLemmas

variable {κ υ : Type} [DecidableEq κ]

/-- Inserting changes what is found under its own key only. -/
theorem lookupEntry_insertEntry (key other : κ) (value : υ) (entries : List (κ × υ)) :
    lookupEntry other (insertEntry key value entries) =
      if other = key then some value else lookupEntry other entries := by
  induction entries with
  | nil =>
      by_cases h : other = key
      · simp [insertEntry, lookupEntry, h]
      · have h' : ¬key = other := fun e => h e.symm
        simp [insertEntry, lookupEntry, h, h']
  | cons entry entries ih =>
      obtain ⟨k, v⟩ := entry
      by_cases hk : k = key
      · by_cases h : other = key
        · simp [insertEntry, lookupEntry, hk, h]
        · have h' : ¬key = other := fun e => h e.symm
          simp [insertEntry, lookupEntry, hk, h, h']
      · by_cases h : k = other
        · have h' : ¬other = key := fun e => hk (h.trans e)
          simp [insertEntry, lookupEntry, h, h']
        · simp [insertEntry, lookupEntry, hk, h, ih]

/-- A key that is there keeps its place; a new one comes last. -/
theorem keys_insertEntry (key : κ) (value : υ) (entries : List (κ × υ)) :
    (insertEntry key value entries).map Prod.fst =
      if key ∈ entries.map Prod.fst then entries.map Prod.fst
      else entries.map Prod.fst ++ [key] := by
  induction entries with
  | nil => simp [insertEntry]
  | cons entry entries ih =>
      obtain ⟨k, v⟩ := entry
      by_cases hk : k = key
      · simp [insertEntry, hk]
      · have hk' : ¬key = k := fun e => hk e.symm
        simp only [insertEntry, hk, if_false, List.map_cons, ih, List.mem_cons, hk', false_or]
        split <;> simp

/-- Inserting leaves the keys distinct. -/
theorem nodup_keys_insertEntry (key : κ) (value : υ) {entries : List (κ × υ)}
    (h : (entries.map Prod.fst).Nodup) :
    ((insertEntry key value entries).map Prod.fst).Nodup := by
  rw [keys_insertEntry]
  split
  · exact h
  · rename_i hnew
    rw [List.nodup_append]
    refine ⟨h, by simp, ?_⟩
    intro a ha b hb hab
    rw [List.mem_singleton] at hb
    exact hnew (hb ▸ hab ▸ ha)

/-- Dropping keys hides their values and no others. -/
theorem lookupEntry_filter (entries : List (κ × υ)) (keep : κ → Bool) (key : κ) :
    lookupEntry key (entries.filter fun entry => keep entry.1) =
      if keep key then lookupEntry key entries else none := by
  induction entries with
  | nil => simp [lookupEntry]
  | cons entry entries ih =>
      by_cases hkey : entry.1 = key
      · subst hkey
        cases hkeep : keep entry.1 <;> simp [hkeep, lookupEntry, ih]
      · cases hkeep : keep entry.1 <;> simp [hkeep, lookupEntry, ih, hkey]

/-- Erasing changes what is found under its own key only. -/
theorem lookupEntry_eraseEntry (key other : κ) (entries : List (κ × υ)) :
    lookupEntry other (eraseEntry key entries) =
      if other = key then none else lookupEntry other entries := by
  rw [eraseEntry, lookupEntry_filter entries (fun k => decide (k ≠ key)) other]
  by_cases h : other = key <;> simp [h]

/-- Erasing leaves the keys distinct. -/
theorem nodup_keys_eraseEntry (key : κ) {entries : List (κ × υ)}
    (h : (entries.map Prod.fst).Nodup) :
    ((eraseEntry key entries).map Prod.fst).Nodup :=
  h.sublist (List.filter_sublist.map Prod.fst)

theorem nodup_keys_foldl_insertEntry (entries done : List (κ × υ))
    (h : (done.map Prod.fst).Nodup) :
    ((entries.foldl (fun done entry => insertEntry entry.1 entry.2 done) done).map
      Prod.fst).Nodup := by
  induction entries generalizing done with
  | nil => exact h
  | cons entry entries ih => exact ih _ (nodup_keys_insertEntry _ _ h)

/-- The keys of collapsed entries are distinct, whatever was given. -/
theorem nodup_keys_collapseEntries (entries : List (κ × υ)) :
    ((collapseEntries entries).map Prod.fst).Nodup :=
  nodup_keys_foldl_insertEntry entries [] (by simp)

/-- A new key is put at the end. -/
theorem insertEntry_of_not_mem {key : κ} (value : υ) {entries : List (κ × υ)}
    (h : key ∉ entries.map Prod.fst) : insertEntry key value entries = entries ++ [(key, value)] := by
  induction entries with
  | nil => rfl
  | cons entry entries ih =>
      obtain ⟨k, v⟩ := entry
      simp only [List.map_cons, List.mem_cons, not_or] at h
      have hk : ¬k = key := fun e => h.1 e.symm
      simp [insertEntry, hk, ih h.2]

/-- Entries with distinct new keys are appended as they stand. -/
theorem foldl_insertEntry_of_nodup (entries done : List (κ × υ))
    (h : ((done ++ entries).map Prod.fst).Nodup) :
    entries.foldl (fun done entry => insertEntry entry.1 entry.2 done) done = done ++ entries := by
  induction entries generalizing done with
  | nil => simp
  | cons entry entries ih =>
      have hnew : entry.1 ∉ done.map Prod.fst := by
        rw [List.map_append, List.map_cons, List.nodup_append] at h
        intro hmem
        exact h.2.2 entry.1 hmem entry.1 (by simp) rfl
      rw [List.foldl_cons, insertEntry_of_not_mem entry.2 hnew, ih _ (by simpa using h)]
      simp

/-- Under distinct keys a look-up finds exactly the entries of the list. -/
theorem lookupEntry_eq_some_iff {key : κ} {value : υ} {entries : List (κ × υ)}
    (h : (entries.map Prod.fst).Nodup) :
    lookupEntry key entries = some value ↔ (key, value) ∈ entries := by
  induction entries with
  | nil => simp [lookupEntry]
  | cons entry entries ih =>
      obtain ⟨k, v⟩ := entry
      rw [List.map_cons, List.nodup_cons] at h
      by_cases hk : k = key
      · subst hk
        have habsent : (k, value) ∉ entries := fun hmem =>
          h.1 (List.mem_map.2 ⟨(k, value), hmem, rfl⟩)
        simp [lookupEntry, habsent, eq_comm]
      · have hk' : ¬key = k := fun e => hk e.symm
        simp [lookupEntry, hk, hk', ih h.2]

/-- Nothing is found exactly under a key that no entry has. -/
theorem lookupEntry_eq_none_iff {key : κ} {entries : List (κ × υ)} :
    lookupEntry key entries = none ↔ key ∉ entries.map Prod.fst := by
  induction entries with
  | nil => simp [lookupEntry]
  | cons entry entries ih =>
      obtain ⟨k, v⟩ := entry
      by_cases hk : k = key
      · simp [lookupEntry, hk]
      · have hk' : ¬key = k := fun e => hk e.symm
        simp [lookupEntry, hk, hk', ih]

/-- Under distinct keys the first entries can be dropped without changing the other look-ups. -/
theorem lookupEntry_drop {entries : List (κ × υ)} (h : (entries.map Prod.fst).Nodup) (count : Nat)
    (key : κ) :
    lookupEntry key (entries.drop count) =
      if key ∈ (entries.map Prod.fst).take count then none else lookupEntry key entries := by
  induction entries generalizing count with
  | nil => simp [lookupEntry]
  | cons entry entries ih =>
      obtain ⟨k, v⟩ := entry
      cases count with
      | zero => simp
      | succ count =>
          rw [List.map_cons, List.nodup_cons] at h
          rw [List.drop_succ_cons, ih h.2, List.map_cons, List.take_succ_cons]
          by_cases hk : k = key
          · subst hk
            simp [lookupEntry_eq_none_iff.2 h.1]
          · have hk' : ¬key = k := fun e => hk e.symm
            simp [lookupEntry, hk, hk']

/-- Entries under distinct keys collapse to themselves. -/
theorem collapseEntries_of_nodup {entries : List (κ × υ)} (h : (entries.map Prod.fst).Nodup) :
    collapseEntries entries = entries := by
  simpa [collapseEntries] using foldl_insertEntry_of_nodup entries [] (by simpa using h)

/-- An entry after an insertion is the inserted one or an old one. -/
theorem eq_or_mem_of_mem_insertEntry {key : κ} {value : υ} {entries : List (κ × υ)}
    {e : κ × υ} (h : e ∈ insertEntry key value entries) : e = (key, value) ∨ e ∈ entries := by
  induction entries with
  | nil => exact .inl (List.mem_singleton.1 h)
  | cons entry entries ih =>
      obtain ⟨k, v⟩ := entry
      rw [insertEntry] at h
      split at h
      · exact (List.mem_cons.1 h).imp_right (List.mem_cons_of_mem _)
      · rcases List.mem_cons.1 h with rfl | h
        · exact .inr List.mem_cons_self
        · exact (ih h).imp_right (List.mem_cons_of_mem _)

/-- Collapsing entries adds none. -/
theorem mem_of_mem_collapseEntries {entries : List (κ × υ)}
    {e : κ × υ} (h : e ∈ collapseEntries entries) : e ∈ entries := by
  have hfold : ∀ entries done : List (κ × υ),
      e ∈ entries.foldl (fun done entry => insertEntry entry.1 entry.2 done) done →
        e ∈ done ∨ e ∈ entries := by
    intro entries
    induction entries with
    | nil => exact fun done h => .inl h
    | cons entry entries ih =>
        intro done h
        rcases ih _ h with h | h
        · rcases eq_or_mem_of_mem_insertEntry h with rfl | h
          · exact .inr List.mem_cons_self
          · exact .inl h
        · exact .inr (List.mem_cons_of_mem _ h)
  exact (hfold entries [] h).resolve_left List.not_mem_nil

end EntryLemmas

/-! ## Maps -/

/-- A finite map with the order of its keys. -/
structure OrderedMap (κ υ : Type) where
  entries : List (κ × υ)
  distinctKeys : (entries.map Prod.fst).Nodup

namespace OrderedMap

variable {κ υ : Type}

/-- Maps with the same entries in the same order are equal. -/
@[ext]
theorem ext {m n : OrderedMap κ υ} (h : m.entries = n.entries) : m = n := by
  cases m
  cases n
  cases h
  rfl

instance [DecidableEq κ] [DecidableEq υ] : DecidableEq (OrderedMap κ υ) := fun m n =>
  if h : m.entries = n.entries then isTrue (ext h) else isFalse fun e => h (e ▸ rfl)

/-- The map without entries. -/
def empty : OrderedMap κ υ := ⟨[], by simp⟩

/-- The keys in order. -/
def keys (m : OrderedMap κ υ) : List κ := m.entries.map Prod.fst

/-- Number of entries. -/
def size (m : OrderedMap κ υ) : Nat := m.entries.length

/-- There are as many keys as entries. -/
theorem length_keys (m : OrderedMap κ υ) : m.keys.length = m.size :=
  List.length_map Prod.fst

/-- Whether there is no entry. -/
def isEmpty (m : OrderedMap κ υ) : Bool := m.entries.isEmpty

variable [DecidableEq κ]

/-- The value under a key. -/
def find? (m : OrderedMap κ υ) (key : κ) : Option υ := lookupEntry key m.entries

/-- Whether a key is present. -/
def contains (m : OrderedMap κ υ) (key : κ) : Bool := (m.find? key).isSome

/-- Put a value under a key. -/
def insert (m : OrderedMap κ υ) (key : κ) (value : υ) : OrderedMap κ υ :=
  ⟨insertEntry key value m.entries, nodup_keys_insertEntry key value m.distinctKeys⟩

/-- Remove a key. -/
def erase (m : OrderedMap κ υ) (key : κ) : OrderedMap κ υ :=
  ⟨eraseEntry key m.entries, nodup_keys_eraseEntry key m.distinctKeys⟩

/-- The map of a list of entries; of several under one key the last value counts, at the place of the
first. -/
def ofList (entries : List (κ × υ)) : OrderedMap κ υ :=
  ⟨collapseEntries entries, nodup_keys_collapseEntries entries⟩

/-- The entries of `base` overlaid by those of `top`. -/
def overlay (base top : OrderedMap κ υ) : OrderedMap κ υ :=
  top.entries.foldl (fun m entry => m.insert entry.1 entry.2) base

/-- The entries are the pairs that look-ups find. -/
theorem mem_entries_iff {m : OrderedMap κ υ} {key : κ} {value : υ} :
    (key, value) ∈ m.entries ↔ m.find? key = some value :=
  (lookupEntry_eq_some_iff m.distinctKeys).symm

/-- A key is contained exactly if something is found under it. -/
theorem contains_eq_true_iff {m : OrderedMap κ υ} {key : κ} :
    m.contains key = true ↔ ∃ value, m.find? key = some value :=
  Option.isSome_iff_exists

theorem contains_of_find? {m : OrderedMap κ υ} {key : κ} {value : υ}
    (h : m.find? key = some value) : m.contains key = true :=
  contains_eq_true_iff.2 ⟨value, h⟩

/-- The keys are those that are present. -/
theorem mem_keys_iff {m : OrderedMap κ υ} {key : κ} : key ∈ m.keys ↔ m.contains key = true := by
  rw [contains_eq_true_iff, keys, List.mem_map]
  constructor
  · rintro ⟨⟨k, value⟩, hmem, rfl⟩
    exact ⟨value, mem_entries_iff.1 hmem⟩
  · rintro ⟨value, hfind⟩
    exact ⟨(key, value), mem_entries_iff.2 hfind, rfl⟩

@[simp]
theorem find?_empty (key : κ) : (empty : OrderedMap κ υ).find? key = none := rfl

/-- After an insertion the new value is found under its key, the old ones under the others. -/
@[simp]
theorem find?_insert (m : OrderedMap κ υ) (key other : κ) (value : υ) :
    (m.insert key value).find? other = if other = key then some value else m.find? other :=
  lookupEntry_insertEntry key other value m.entries

/-- Inserting removes no key. -/
theorem contains_insert {m : OrderedMap κ υ} {key other : κ} {value : υ}
    (h : m.contains other = true) : (m.insert key value).contains other = true := by
  obtain ⟨old, hfind⟩ := contains_eq_true_iff.1 h
  rw [contains, find?_insert]
  split
  · rfl
  · rw [hfind]
    rfl

/-- After an erasure nothing is found under its key, the old values under the others. -/
@[simp]
theorem find?_erase (m : OrderedMap κ υ) (key other : κ) :
    (m.erase key).find? other = if other = key then none else m.find? other :=
  lookupEntry_eraseEntry key other m.entries

/-- A key that is there keeps its place; a new one comes last. -/
@[simp]
theorem keys_insert (m : OrderedMap κ υ) (key : κ) (value : υ) :
    (m.insert key value).keys = if key ∈ m.keys then m.keys else m.keys ++ [key] :=
  keys_insertEntry key value m.entries

/-- The other keys keep their order. -/
@[simp]
theorem keys_erase (m : OrderedMap κ υ) (key : κ) :
    (m.erase key).keys = m.keys.filter (· ≠ key) := by
  simp only [keys, erase, eraseEntry, List.filter_map]
  rfl

/-- A key can be erased once only. -/
@[simp]
theorem erase_erase (m : OrderedMap κ υ) (key : κ) : (m.erase key).erase key = m.erase key :=
  ext (by simp [erase, eraseEntry])

/-- Inserting under a key that was erased puts the entry at the end. -/
theorem entries_insert_erase (m : OrderedMap κ υ) (key : κ) (value : υ) :
    ((m.erase key).insert key value).entries = eraseEntry key m.entries ++ [(key, value)] :=
  insertEntry_of_not_mem value (by simp [erase, eraseEntry])

/-- Maps with the same keys in the same order and the same values are equal. -/
theorem ext_keys {m n : OrderedMap κ υ} (hkeys : m.keys = n.keys)
    (hfind : ∀ key, m.find? key = n.find? key) : m = n := by
  refine ext (List.ext_getElem ?_ fun i hm hn => ?_)
  · have hlength := congrArg List.length hkeys
    simpa only [keys, List.length_map] using hlength
  · have hkey : m.entries[i].1 = n.entries[i].1 := by
      have hget : (m.keys)[i]? = (n.keys)[i]? := by rw [hkeys]
      simpa [keys, hm, hn] using hget
    have hleft : m.find? m.entries[i].1 = some m.entries[i].2 :=
      mem_entries_iff.1 (List.getElem_mem hm)
    have hright : n.find? n.entries[i].1 = some n.entries[i].2 :=
      mem_entries_iff.1 (List.getElem_mem hn)
    rw [hfind, hkey, hright] at hleft
    exact Prod.ext hkey (Option.some.inj hleft).symm

/-- Maps with the same values have the same keys, perhaps in another order. -/
theorem keys_perm_of_find?_eq {m n : OrderedMap κ υ} (h : ∀ key, m.find? key = n.find? key) :
    m.keys.Perm n.keys := by
  refine (List.perm_ext_iff_of_nodup m.distinctKeys n.distinctKeys).2 fun key => ?_
  have hcontains : m.contains key = n.contains key := by rw [contains, contains, h]
  exact mem_keys_iff.trans (hcontains ▸ mem_keys_iff.symm)

/-- A list of entries under distinct keys is kept as it is. -/
@[simp]
theorem ofList_entries (m : OrderedMap κ υ) : ofList m.entries = m :=
  ext (collapseEntries_of_nodup m.distinctKeys)

/-- After all insertions the value of the list is found, or else the one of the base. -/
theorem find?_foldl_insert (entries : List (κ × υ)) (h : (entries.map Prod.fst).Nodup)
    (base : OrderedMap κ υ) (key : κ) :
    (entries.foldl (fun m entry => m.insert entry.1 entry.2) base).find? key =
      (lookupEntry key entries).or (base.find? key) := by
  induction entries generalizing base with
  | nil => simp [lookupEntry]
  | cons entry entries ih =>
      obtain ⟨k, v⟩ := entry
      rw [List.map_cons, List.nodup_cons] at h
      rw [List.foldl_cons, ih h.2, find?_insert]
      by_cases hk : k = key
      · subst hk
        simp [lookupEntry, lookupEntry_eq_none_iff.2 h.1]
      · have hk' : ¬key = k := fun e => hk e.symm
        simp [lookupEntry, hk, hk']

/-- An overlaid look-up takes the upper value where there is one. -/
theorem find?_overlay (base top : OrderedMap κ υ) (key : κ) :
    (base.overlay top).find? key = (top.find? key).or (base.find? key) :=
  find?_foldl_insert top.entries top.distinctKeys base key

/-- The keys of the base keep their places; the new ones follow in the order of the list. -/
theorem keys_foldl_insert (entries : List (κ × υ)) (h : (entries.map Prod.fst).Nodup)
    (base : OrderedMap κ υ) :
    (entries.foldl (fun m entry => m.insert entry.1 entry.2) base).keys =
      base.keys ++ (entries.map Prod.fst).filter fun key => !base.contains key := by
  induction entries generalizing base with
  | nil => simp
  | cons entry entries ih =>
      obtain ⟨k, v⟩ := entry
      rw [List.map_cons, List.nodup_cons] at h
      -- The keys that follow differ from `k`, so that inserting `k` changes no test on them.
      have hfilter : ((entries.map Prod.fst).filter fun key => !(base.insert k v).contains key) =
          (entries.map Prod.fst).filter fun key => !base.contains key := by
        refine List.filter_congr fun key hmem => ?_
        have hne : key ≠ k := fun heq => h.1 (heq ▸ hmem)
        rw [contains, find?_insert, if_neg hne, contains]
      rw [List.foldl_cons, ih h.2, hfilter, keys_insert, List.map_cons, List.filter_cons]
      by_cases hk : base.contains k = true
      · simp [mem_keys_iff, hk]
      · simp [mem_keys_iff, hk]

/-- Overlaying keeps the keys in their places and puts new ones at the end. -/
theorem keys_overlay (base top : OrderedMap κ υ) :
    (base.overlay top).keys = base.keys ++ top.keys.filter fun key => !base.contains key :=
  keys_foldl_insert top.entries top.distinctKeys base

/-- The map without entries is overlaid by every map whole. -/
@[simp]
theorem empty_overlay (top : OrderedMap κ υ) : (empty : OrderedMap κ υ).overlay top = top :=
  ext_keys ((keys_overlay empty top).trans (List.filter_eq_self.2 fun _ _ => rfl)) fun key => by
    rw [find?_overlay, find?_empty, Option.or_none]

end OrderedMap
end VideoBundle
