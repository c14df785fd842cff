import VideoBundle.Project.Sessions

/-!
# What remembering and forgetting change

Remembering a session may crowd others out.  With sessions that keep to their capacity this happens
only when a new session comes to a full house, and then to the one session that was remembered least
recently.

Main results:

- `find?_remember`: the documents after a session is remembered.
- `mem_crowdedOut_iff`: which sessions have to go.
- `remember_remember`: remembering a session again replaces its document and moves nothing.
-/

namespace VideoBundle

/-- The values under the last entries of a map. -/
theorem OrderedMap.find?_trimmed {κ υ : Type} [DecidableEq κ] (m : OrderedMap κ υ) (count : Nat)
    (key : κ) :
    (m.trimmed count).find? key =
      if key ∈ m.keys.take (m.size - count) then none else m.find? key :=
  lookupEntry_drop m.distinctKeys (m.size - count) key

namespace Sessions

variable {s : Sessions} {id other : String} {d : Document}

/-! ## Capacity -/

/-- Sessions that keep to a capacity, which is positive. -/
structure Bounded (s : Sessions) : Prop where
  capacity_pos : 0 < s.capacity
  size_le : s.size ≤ s.capacity

/-- An empty store is within its capacity, if that is positive. -/
theorem bounded_empty {capacity : Nat} (h : 0 < capacity) : (empty capacity).Bounded :=
  ⟨h, Nat.zero_le _⟩

@[simp]
theorem capacity_clear (s : Sessions) (id : String) : (s.clear id).capacity = s.capacity := rfl

@[simp]
theorem capacity_remember (s : Sessions) (id : String) (d : Document) :
    (s.remember id d).capacity = s.capacity := by
  unfold remember
  split <;> rfl

theorem size_clear_le (s : Sessions) (id : String) : (s.clear id).size ≤ s.size :=
  List.length_filter_le _ _

/-- Clearing keeps the store within its capacity. -/
theorem Bounded.clear (h : s.Bounded) (id : String) : (s.clear id).Bounded :=
  ⟨h.capacity_pos, Nat.le_trans (size_clear_le s id) h.size_le⟩

/-- Remembering keeps the store within its capacity: it crowds out the oldest. -/
theorem Bounded.remember (h : s.Bounded) (id : String) (d : Document) :
    (s.remember id d).Bounded := by
  unfold Sessions.remember
  split
  · exact h
  · exact ⟨h.capacity_pos, OrderedMap.size_trimmed_le _ _⟩

/-! ## Documents -/

/-- The names in the store are those under which something is found. -/
theorem mem_ids_iff : id ∈ s.ids ↔ (s.find? id).isSome = true :=
  OrderedMap.mem_keys_iff

theorem length_ids (s : Sessions) : s.ids.length = s.size := s.documents.length_keys

/-- Clearing forgets one session only. -/
@[simp]
theorem find?_clear (s : Sessions) (id other : String) :
    (s.clear id).find? other = if other = id then none else s.find? other :=
  OrderedMap.find?_erase s.documents id other

/-- The sessions that have to go when a session is remembered: the least recently remembered of the
others, as many as are too many. -/
def crowdedOut (s : Sessions) (id : String) : List String :=
  let others := s.ids.filter (· ≠ id)
  others.take (others.length + 1 - s.capacity)

/-- A session never crowds itself out. -/
theorem not_mem_crowdedOut_self (s : Sessions) (id : String) : id ∉ s.crowdedOut id := fun hmem =>
  absurd (List.mem_filter.1 (List.mem_of_mem_take hmem)).2 (by simp)

/-- The documents after a session is remembered. -/
theorem find?_remember (hid : id ≠ "") (hcapacity : 0 < s.capacity) (d : Document)
    (other : String) :
    (s.remember id d).find? other =
      if other = id then some d else if other ∈ s.crowdedOut id then none else s.find? other := by
  have hkeys : ((s.documents.erase id).insert id d).keys = s.ids.filter (· ≠ id) ++ [id] := by
    rw [OrderedMap.keys_insert, OrderedMap.keys_erase, if_neg (by simp)]
    rfl
  have hsize : ((s.documents.erase id).insert id d).size =
      (s.ids.filter (· ≠ id)).length + 1 := by
    rw [← OrderedMap.length_keys, hkeys, List.length_append, List.length_singleton]
  have hfirst : ((s.documents.erase id).insert id d).keys.take
      (((s.documents.erase id).insert id d).size - s.capacity) = s.crowdedOut id := by
    rw [hkeys, hsize, List.take_append_of_le_length (by omega)]
    rfl
  have hremember : (s.remember id d).find? other =
      (((s.documents.erase id).insert id d).trimmed s.capacity).find? other := by
    rw [Sessions.remember, if_neg hid]
    rfl
  rw [hremember, OrderedMap.find?_trimmed, hfirst, OrderedMap.find?_insert, OrderedMap.find?_erase]
  by_cases hother : other = id
  · simp [hother, not_mem_crowdedOut_self]
  · simp only [hother, if_false]
    rfl

/-- A session that was just remembered has its document. -/
theorem find?_remember_self (hid : id ≠ "") (hcapacity : 0 < s.capacity) :
    (s.remember id d).find? id = some d := by
  rw [find?_remember hid hcapacity, if_pos rfl]

/-- With room for one more, nobody has to go. -/
theorem crowdedOut_of_lt (h : (s.ids.filter (· ≠ id)).length < s.capacity) :
    s.crowdedOut id = [] := by
  rw [crowdedOut, Nat.sub_eq_zero_of_le h, List.take_zero]

/-- A session has to go only when another one is new to a full house, and then it is the one that was
remembered least recently. -/
theorem mem_crowdedOut_iff (h : s.Bounded) :
    other ∈ s.crowdedOut id ↔
      s.contains id = false ∧ s.size = s.capacity ∧ s.ids.head? = some other := by
  have hsize := h.size_le
  rw [← length_ids] at hsize ⊢
  by_cases hid : id ∈ s.ids
  · have hlength : (s.ids.filter (· ≠ id)).length < s.ids.length :=
      List.length_filter_lt_length_iff_exists.2 ⟨id, hid, by simp⟩
    have hcontains : s.contains id = true := OrderedMap.mem_keys_iff.1 hid
    rw [crowdedOut_of_lt (by omega), hcontains]
    simp
  · have hcontains : s.contains id = false := by
      rw [← Bool.not_eq_true]
      exact fun hpresent => hid (OrderedMap.mem_keys_iff.2 hpresent)
    have hothers : s.ids.filter (· ≠ id) = s.ids :=
      List.filter_eq_self.2 fun a ha => by simpa using fun heq : a = id => hid (heq ▸ ha)
    rcases Nat.lt_or_eq_of_le hsize with hroom | hfull
    · rw [crowdedOut_of_lt (by rwa [hothers])]
      simp [Nat.ne_of_lt hroom]
    · simp only [crowdedOut, hothers, hfull, Nat.add_sub_cancel_left, hcontains, true_and]
      cases s.ids with
      | nil => simp
      | cons first rest => simp [eq_comm]

/-! ## Remembering again -/

/-- The entries after a session is remembered: those of the others that may stay, and then its own. -/
theorem entries_remember (hid : id ≠ "") (hcapacity : 0 < s.capacity) (d : Document) :
    (s.remember id d).documents.entries =
      (eraseEntry id s.documents.entries).drop
        ((eraseEntry id s.documents.entries).length + 1 - s.capacity) ++ [(id, d)] := by
  rw [Sessions.remember, if_neg hid]
  simp only [OrderedMap.trimmed, OrderedMap.size, OrderedMap.entries_insert_erase,
    List.length_append, List.length_singleton]
  exact List.drop_append_of_le_length (by omega)

/-- Remembering a session again replaces its document and moves nothing. -/
theorem remember_remember (hcapacity : 0 < s.capacity) (id : String) (d e : Document) :
    (s.remember id d).remember id e = s.remember id e := by
  by_cases hid : id = ""
  · simp [Sessions.remember, hid]
  · have hsame : ((s.remember id d).remember id e).documents = (s.remember id e).documents := by
      apply OrderedMap.ext
      rw [entries_remember hid (by simpa using hcapacity), entries_remember hid hcapacity,
        entries_remember hid hcapacity]
      -- The others that may stay are already few enough.
      generalize hothers : eraseEntry id s.documents.entries = others
      have hgone : ∀ entry ∈ others.drop (others.length + 1 - s.capacity), entry.1 ≠ id := by
        intro entry hmem
        have hentry := List.mem_of_mem_drop hmem
        rw [← hothers] at hentry
        simpa using (List.mem_filter.1 hentry).2
      have herase : eraseEntry id (others.drop (others.length + 1 - s.capacity) ++ [(id, d)]) =
          others.drop (others.length + 1 - s.capacity) := by
        rw [eraseEntry, List.filter_append, List.filter_eq_self.2 (by simpa using hgone)]
        simp
      rw [herase, capacity_remember, List.length_drop]
      have hfew : others.length - (others.length + 1 - s.capacity) + 1 - s.capacity = 0 := by omega
      rw [hfew, List.drop_zero]
    have hcap : ((s.remember id d).remember id e).capacity = (s.remember id e).capacity := by
      simp
    calc (s.remember id d).remember id e
        = ⟨((s.remember id d).remember id e).capacity,
            ((s.remember id d).remember id e).documents⟩ := rfl
      _ = s.remember id e := by rw [hsame, hcap]

/-- Forgetting a session before it is remembered changes nothing. -/
theorem remember_clear (s : Sessions) (id : String) (d : Document) (hid : id ≠ "") :
    (s.clear id).remember id d = s.remember id d := by
  simp [Sessions.remember, hid, clear]

@[simp]
theorem clear_clear (s : Sessions) (id : String) : (s.clear id).clear id = s.clear id := by
  simp [clear]

end Sessions
end VideoBundle
