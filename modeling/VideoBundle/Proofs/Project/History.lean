import Mathlib.Data.List.Induction
import Mathlib.Data.List.Perm.Subperm
import VideoBundle.Proofs.Project.Sessions

/-!
# Sessions and their history

What is remembered after any operations one after another, said through the history alone.  The
sessions stand in the order in which each was remembered last, every one has its last document, and a
session is given up only when it is cleared or when as many others were remembered after it as there is
room for.

Main results:

- `Recent.performAll`: what is remembered is always a part of the order of last remembering.
- `find?_performAll_of_few`: which sessions cannot be given up.
- `ids_performAll`: without clearing, exactly the latest sessions are held.
- `performAll_latest`: all of this for any operations one after another.
-/

namespace VideoBundle

/-- An operation on sessions. -/
inductive SessionOperation where
  | remember (id : String) (d : Document)
  | get (id : String)
  | clear (id : String)

namespace SessionOperation

/-- Whether an operation remembers or clears a session. -/
def Touches (id : String) : SessionOperation → Prop
  | remember other _ => other = id
  | get _ => False
  | clear other => other = id

/-- The session that an operation remembers; the empty name is no session. -/
def remembered? : SessionOperation → Option String
  | remember id _ => if id = "" then none else some id
  | _ => none

end SessionOperation

namespace Sessions

open SessionOperation

variable {capacity : Nat} {operations later : List SessionOperation} {s : Sessions}
  {id other : String} {d : Document}

/-! ## Operations one after another -/

/-- The sessions after an operation, and its answer: a look-up gives the document. -/
def perform (s : Sessions) : SessionOperation → Sessions × Option Document
  | .remember id d => (s.remember id d, none)
  | .get id => (s, s.find? id)
  | .clear id => (s.clear id, none)

/-- The sessions after operations one after another. -/
def performAll (s : Sessions) (operations : List SessionOperation) : Sessions :=
  operations.foldl (fun s operation => (s.perform operation).1) s

@[simp]
theorem performAll_nil (s : Sessions) : s.performAll [] = s := rfl

/-- A history can be split: its later part goes on from where the earlier one ended. -/
@[simp]
theorem performAll_append (s : Sessions) (operations later : List SessionOperation) :
    s.performAll (operations ++ later) = (s.performAll operations).performAll later :=
  List.foldl_append

@[simp]
theorem performAll_singleton (s : Sessions) (operation : SessionOperation) :
    s.performAll [operation] = (s.perform operation).1 := rfl

@[simp]
theorem capacity_empty (capacity : Nat) : (empty capacity).capacity = capacity := rfl

@[simp]
theorem capacity_perform (s : Sessions) (operation : SessionOperation) :
    (s.perform operation).1.capacity = s.capacity := by
  cases operation <;> simp [perform]

/-- No history changes the capacity. -/
@[simp]
theorem capacity_performAll (s : Sessions) (operations : List SessionOperation) :
    (s.performAll operations).capacity = s.capacity := by
  induction operations using List.reverseRecOn with
  | nil => rfl
  | append_singleton operations operation ih => simp [ih]

/-- The store stays within its capacity over every history. -/
theorem Bounded.performAll (h : s.Bounded) (operations : List SessionOperation) :
    (s.performAll operations).Bounded := by
  induction operations using List.reverseRecOn with
  | nil => exact h
  | append_singleton operations operation ih =>
      rw [performAll_append, performAll_singleton]
      cases operation with
      | remember id d => exact ih.remember id d
      | get id => exact ih
      | clear id => exact ih.clear id

/-! ## The order of the sessions -/

theorem nodup_ids (s : Sessions) : s.ids.Nodup := s.documents.distinctKeys

/-- Clearing takes one session out and keeps the order of the others. -/
theorem ids_clear (s : Sessions) (id : String) : (s.clear id).ids = s.ids.filter (· ≠ id) :=
  OrderedMap.keys_erase s.documents id

/-- A session that is remembered comes last, behind those of the others that may stay. -/
theorem ids_remember (hid : id ≠ "") (hcapacity : 0 < s.capacity) (d : Document) :
    (s.remember id d).ids =
      (s.ids.filter (· ≠ id)).drop ((s.ids.filter (· ≠ id)).length + 1 - s.capacity) ++ [id] := by
  have hothers : (eraseEntry id s.documents.entries).map Prod.fst = s.ids.filter (· ≠ id) :=
    OrderedMap.keys_erase s.documents id
  have hids : (s.remember id d).ids = (s.remember id d).documents.entries.map Prod.fst := rfl
  rw [hids, entries_remember hid hcapacity, List.map_append, List.map_drop, hothers, ← hothers,
    List.length_map]
  rfl

@[simp]
theorem remember_empty (s : Sessions) (d : Document) : s.remember "" d = s := rfl

/-! ## The last time a session was remembered -/

/-- A document is the last that was remembered for a session, which was not cleared since. -/
def LastRemembered (operations : List SessionOperation) (id : String) (d : Document) : Prop :=
  ∃ before later, operations = before ++ .remember id d :: later ∧
    ∀ operation ∈ later, ¬operation.Touches id

/-- A session was last remembered before another one was last remembered, and neither was cleared
since. -/
def RememberedBefore (operations : List SessionOperation) (id other : String) : Prop :=
  ∃ before d middle e later,
    operations = before ++ .remember id d :: (middle ++ .remember other e :: later) ∧
      (∀ operation ∈ middle ++ later, ¬operation.Touches id) ∧
        ∀ operation ∈ later, ¬operation.Touches other

/-- What was just remembered was remembered last. -/
theorem lastRemembered_concat (operations : List SessionOperation) (id : String) (d : Document) :
    LastRemembered (operations ++ [.remember id d]) id d :=
  ⟨operations, [], rfl, by simp⟩

/-- Operations on other sessions do not change what was remembered last. -/
theorem LastRemembered.concat (h : LastRemembered operations id d) {operation : SessionOperation}
    (hother : ¬operation.Touches id) : LastRemembered (operations ++ [operation]) id d := by
  rcases h with ⟨before, later, rfl, hlater⟩
  refine ⟨before, later ++ [operation], by simp, ?_⟩
  intro o ho
  rcases List.mem_append.1 ho with ho | ho
  · exact hlater o ho
  · rwa [List.mem_singleton.1 ho]

/-- A session that is remembered now was remembered after every other one. -/
theorem LastRemembered.before_concat (h : LastRemembered operations id d) (other : String)
    (e : Document) : RememberedBefore (operations ++ [.remember other e]) id other := by
  rcases h with ⟨before, later, rfl, hlater⟩
  exact ⟨before, d, later, e, [], by simp, by simpa using hlater, by simp⟩

/-- Operations on other sessions do not change which of two was remembered before. -/
theorem RememberedBefore.concat (h : RememberedBefore operations id other)
    {operation : SessionOperation} (hid : ¬operation.Touches id) (hother : ¬operation.Touches other) :
    RememberedBefore (operations ++ [operation]) id other := by
  rcases h with ⟨before, d, middle, e, later, rfl, hlater, hlater'⟩
  refine ⟨before, d, middle, e, later ++ [operation], by simp, ?_, ?_⟩
  · intro o ho
    rw [← List.append_assoc] at ho
    rcases List.mem_append.1 ho with ho | ho
    · exact hlater o ho
    · rwa [List.mem_singleton.1 ho]
  · intro o ho
    rcases List.mem_append.1 ho with ho | ho
    · exact hlater' o ho
    · rwa [List.mem_singleton.1 ho]

/-! ## What the history says of the sessions -/

/-- Sessions hold what the history says was remembered last, in that order. -/
structure Recent (operations : List SessionOperation) (s : Sessions) : Prop where
  bounded : s.Bounded
  named : "" ∉ s.ids
  latest : ∀ {id d}, s.find? id = some d → LastRemembered operations id d
  ordered : s.ids.Pairwise (RememberedBefore operations)

namespace Recent

/-- The empty store agrees with the empty history. -/
theorem start (h : 0 < capacity) : Recent [] (empty capacity) where
  bounded := bounded_empty h
  named := List.not_mem_nil
  latest hfind := nomatch hfind
  ordered := List.Pairwise.nil

/-- What is held under a name is what was last remembered under it. -/
theorem exists_lastRemembered (h : Recent operations s) (hid : id ∈ s.ids) :
    ∃ d, s.find? id = some d ∧ LastRemembered operations id d := by
  rcases Option.isSome_iff_exists.1 (mem_ids_iff.1 hid) with ⟨d, hd⟩
  exact ⟨d, hd, h.latest hd⟩

/-- An operation that puts no session in and does not touch those that stay. -/
theorem frame (h : Recent operations s) {operation : SessionOperation} {t : Sessions}
    (hbounded : t.Bounded) (hids : t.ids.Sublist s.ids)
    (hfind : ∀ {id d}, t.find? id = some d → s.find? id = some d)
    (huntouched : ∀ id ∈ t.ids, ¬operation.Touches id) : Recent (operations ++ [operation]) t where
  bounded := hbounded
  named hmem := h.named (hids.subset hmem)
  latest hd := (h.latest (hfind hd)).concat (huntouched _ (mem_ids_iff.2 (by rw [hd]; rfl)))
  ordered := by
    refine (h.ordered.sublist hids).imp_of_mem ?_
    intro a b ha hb hab
    exact hab.concat (huntouched a ha) (huntouched b hb)

/-- Clearing keeps the agreement with the history. -/
theorem clear (h : Recent operations s) (id : String) :
    Recent (operations ++ [.clear id]) (s.clear id) := by
  apply h.frame (h.bounded.clear id)
  · rw [ids_clear]
    exact List.filter_sublist
  · intro other d hd
    rw [find?_clear] at hd
    split at hd
    · cases hd
    · exact hd
  · intro other hother htouched
    rw [ids_clear] at hother
    simp [show id = other from htouched] at hother

theorem remember_empty (h : Recent operations s) (d : Document) :
    Recent (operations ++ [.remember "" d]) s := by
  apply h.frame h.bounded (List.Sublist.refl _) fun hd => hd
  intro other hother htouched
  exact h.named ((show "" = other from htouched) ▸ hother)

/-- Remembering keeps the agreement: the new session comes last, and the oldest may be gone. -/
theorem remember (h : Recent operations s) (hid : id ≠ "") (d : Document) :
    Recent (operations ++ [.remember id d]) (s.remember id d) where
  bounded := h.bounded.remember id d
  named hmem := by
    rw [ids_remember hid h.bounded.capacity_pos, List.mem_append] at hmem
    rcases hmem with hmem | hmem
    · exact h.named (List.mem_of_mem_filter (List.mem_of_mem_drop hmem))
    · exact hid (List.mem_singleton.1 hmem).symm
  latest {other e} hfind := by
    rw [find?_remember hid h.bounded.capacity_pos] at hfind
    split at hfind
    · rename_i hother
      rw [hother, ← Option.some.inj hfind]
      exact lastRemembered_concat operations id d
    · rename_i hother
      split at hfind
      · cases hfind
      · exact (h.latest hfind).concat fun htouched => hother (Eq.symm htouched)
  ordered := by
    rw [ids_remember hid h.bounded.capacity_pos, List.pairwise_append]
    refine ⟨?_, List.pairwise_singleton _ _, ?_⟩
    · -- The others keep their order, since none of them is touched.
      refine ((h.ordered.sublist List.filter_sublist).sublist
        (List.drop_sublist _ _)).imp_of_mem ?_
      intro a b ha hb hab
      have hne : ∀ c ∈ (s.ids.filter (· ≠ id)).drop
          ((s.ids.filter (· ≠ id)).length + 1 - s.capacity), ¬(id = c) := by
        intro c hc heq
        simpa [heq] using List.of_mem_filter (List.mem_of_mem_drop hc)
      exact hab.concat (hne a ha) (hne b hb)
    · intro other hother last hlast
      have hmem := List.mem_of_mem_drop hother
      rcases h.exists_lastRemembered (List.mem_of_mem_filter hmem) with ⟨e, _, hlatest⟩
      rw [List.mem_singleton.1 hlast]
      exact hlatest.before_concat id d

/-- One operation keeps the sessions in step with the history. -/
theorem perform (h : Recent operations s) (operation : SessionOperation) :
    Recent (operations ++ [operation]) (s.perform operation).1 := by
  cases operation with
  | remember id d =>
      by_cases hid : id = ""
      · rw [hid]
        exact h.remember_empty d
      · exact h.remember hid d
  | get id => exact h.frame h.bounded (List.Sublist.refl _) (fun hd => hd) fun _ _ => not_false
  | clear id => exact h.clear id

/-- Sessions that start empty stay in step with the history. -/
theorem performAll (h : 0 < capacity) (operations : List SessionOperation) :
    Recent operations ((empty capacity).performAll operations) := by
  induction operations using List.reverseRecOn with
  | nil => exact start h
  | append_singleton operations operation ih =>
      rw [performAll_append, performAll_singleton]
      exact ih.perform operation

end Recent

/-! ## Sessions that cannot be given up -/

/-- The sessions that operations remember, in the order in which they do. -/
def rememberedIds (operations : List SessionOperation) : List String :=
  operations.filterMap remembered?

@[simp]
theorem rememberedIds_append (operations later : List SessionOperation) :
    rememberedIds (operations ++ later) = rememberedIds operations ++ rememberedIds later :=
  List.filterMap_append

@[simp]
theorem rememberedIds_remember (hid : id ≠ "") (d : Document) :
    rememberedIds [.remember id d] = [id] := by
  simp [rememberedIds, remembered?, hid]

/-- Different sessions that were all remembered are no more than the different names among them. -/
theorem length_le_distinct {ids names : List String} (hnodup : ids.Nodup) (hids : ids ⊆ names) :
    ids.length ≤ (distinct names).length := by
  apply List.Subperm.length_le
  apply hnodup.subperm
  intro id hid
  exact mem_distinct.2 (hids hid)

/-- Sessions hold a document of a session, and those behind it were remembered later. -/
def HeldBefore (later : List SessionOperation) (id : String) (d : Document) (s : Sessions) : Prop :=
  s.find? id = some d ∧ ∃ front back, s.ids = front ++ id :: back ∧ back ⊆ rememberedIds later

/-- Right after it was remembered a session has no other behind it. -/
theorem heldBefore_remember (hid : id ≠ "") (hcapacity : 0 < s.capacity) (d : Document) :
    HeldBefore [] id d (s.remember id d) :=
  ⟨find?_remember_self hid hcapacity, _, [], ids_remember hid hcapacity d, List.nil_subset _⟩

/-- What stands behind a session may be counted over a longer history. -/
theorem HeldBefore.mono (h : HeldBefore later id d s) (more : List SessionOperation) :
    HeldBefore (later ++ more) id d s := by
  rcases h with ⟨hfind, front, back, hids, hback⟩
  refine ⟨hfind, front, back, hids, fun a ha => ?_⟩
  rw [rememberedIds_append]
  exact List.mem_append_left _ (hback ha)

/-- Clearing another session keeps the one that is watched. -/
theorem HeldBefore.clear (h : HeldBefore later id d s) (hother : other ≠ id) :
    HeldBefore (later ++ [.clear other]) id d (s.clear other) := by
  rcases h with ⟨hfind, front, back, hids, hback⟩
  have hid : id ≠ other := fun heq => hother heq.symm
  refine ⟨by rw [find?_clear, if_neg hid, hfind], front.filter (· ≠ other),
    back.filter (· ≠ other), ?_, ?_⟩
  · rw [ids_clear, hids, List.filter_append, List.filter_cons_of_pos (by simpa using hid)]
  · intro a ha
    rw [rememberedIds_append]
    exact List.mem_append_left _ (hback (List.mem_of_mem_filter ha))

/-- Another session takes the place of one in front, as long as there is room for those behind. -/
theorem HeldBefore.remember (h : HeldBefore later id d s) (hcapacity : 0 < s.capacity)
    (hother : other ≠ id) (hnamed : other ≠ "") (e : Document)
    (hfew : (distinct (rememberedIds (later ++ [.remember other e]))).length < s.capacity) :
    HeldBefore (later ++ [.remember other e]) id d (s.remember other e) := by
  rcases h with ⟨hfind, front, back, hids, hback⟩
  have hid : id ≠ other := fun heq => hother heq.symm
  have hothers : s.ids.filter (· ≠ other) =
      front.filter (· ≠ other) ++ id :: back.filter (· ≠ other) := by
    rw [hids, List.filter_append, List.filter_cons_of_pos (by simpa using hid)]
  have hnodup : (front.filter (· ≠ other) ++ id :: back.filter (· ≠ other)).Nodup :=
    hothers ▸ s.nodup_ids.filter _
  have hlater : back.filter (· ≠ other) ++ [other] ⊆
      rememberedIds (later ++ [.remember other e]) := by
    rw [rememberedIds_append, rememberedIds_remember hnamed]
    intro a ha
    rcases List.mem_append.1 ha with ha | ha
    · exact List.mem_append_left _ (hback (List.mem_of_mem_filter ha))
    · exact List.mem_append_right _ ha
  have hroom : (back.filter (· ≠ other)).length + 1 < s.capacity := by
    have hbehind : (back.filter (· ≠ other) ++ [other]).Nodup := by
      rw [List.nodup_append] at hnodup ⊢
      refine ⟨(List.nodup_cons.1 hnodup.2.1).2, by simp, ?_⟩
      intro a ha b hb
      rw [List.mem_singleton.1 hb]
      simpa using List.of_mem_filter ha
    have := length_le_distinct hbehind hlater
    rw [List.length_append, List.length_singleton] at this
    omega
  have hdrop : (s.ids.filter (· ≠ other)).length + 1 - s.capacity ≤
      (front.filter (· ≠ other)).length := by
    rw [hothers, List.length_append, List.length_cons]
    omega
  have hkept : id ∉ s.crowdedOut other := by
    intro hcrowded
    rw [crowdedOut, hothers, List.take_append_of_le_length (by rwa [hothers] at hdrop)] at hcrowded
    rw [List.nodup_append] at hnodup
    exact hnodup.2.2 id (List.mem_of_mem_take hcrowded) id List.mem_cons_self rfl
  refine ⟨by rw [find?_remember hnamed hcapacity, if_neg hid, if_neg hkept, hfind],
    (front.filter (· ≠ other)).drop ((s.ids.filter (· ≠ other)).length + 1 - s.capacity),
    back.filter (· ≠ other) ++ [other], ?_, hlater⟩
  rw [ids_remember hnamed hcapacity]
  generalize (s.ids.filter (· ≠ other)).length + 1 - s.capacity = count at hdrop ⊢
  rw [hothers, List.drop_append_of_le_length hdrop, List.append_assoc, List.cons_append]

/-- A session stays held as long as fewer others than the capacity were remembered since. -/
theorem HeldBefore.performAll (h : HeldBefore [] id d s) (hcapacity : 0 < s.capacity)
    (huntouched : ∀ operation ∈ later, ¬operation.Touches id)
    (hfew : (distinct (rememberedIds later)).length < s.capacity) :
    HeldBefore later id d (s.performAll later) := by
  induction later using List.reverseRecOn with
  | nil => exact h
  | append_singleton later operation ih =>
      have hbefore : HeldBefore later id d (s.performAll later) := by
        apply ih
        · exact fun o ho => huntouched o (List.mem_append_left _ ho)
        · refine Nat.lt_of_le_of_lt (length_le_distinct (nodup_distinct _) ?_) hfew
          intro a ha
          rw [rememberedIds_append]
          exact List.mem_append_left _ (mem_distinct.1 ha)
      have hoperation := huntouched operation (List.mem_append_right _ List.mem_cons_self)
      rw [performAll_append, performAll_singleton]
      cases operation with
      | remember other e =>
          by_cases hnamed : other = ""
          · rw [hnamed]
            exact hbefore.mono _
          · exact hbefore.remember (by simpa using hcapacity) hoperation hnamed e
              (by simpa using hfew)
      | get other => exact hbefore.mono _
      | clear other => exact hbefore.clear hoperation

/-- A session is held that was not cleared since it was remembered last, and since when fewer others
were remembered than there is room for. -/
theorem find?_performAll_of_few (h : 0 < capacity) {before : List SessionOperation} (hid : id ≠ "")
    (huntouched : ∀ operation ∈ later, ¬operation.Touches id)
    (hfew : (distinct (rememberedIds later)).length < capacity) :
    ((empty capacity).performAll (before ++ .remember id d :: later)).find? id = some d := by
  have hsplit : before ++ .remember id d :: later = before ++ [.remember id d] ++ later := by simp
  rw [hsplit, performAll_append, performAll_append, performAll_singleton]
  refine (HeldBefore.performAll (heldBefore_remember hid ?_ d) ?_ huntouched ?_).1
  · simpa using h
  · simpa [perform] using h
  · simpa [perform] using hfew

/-! ## Histories without clearing -/

/-- The last `capacity` different sessions that operations remember, in the order in which they
remember each of them last. -/
def latestIds (capacity : Nat) (operations : List SessionOperation) : List String :=
  ((distinct (rememberedIds operations).reverse).take capacity).reverse

/-- The last items of a list are the first from its end. -/
theorem drop_reverse_length_sub (ids : List String) (count : Nat) :
    ids.reverse.drop (ids.length - count) = (ids.take count).reverse := by
  rw [List.drop_reverse]
  congr 1
  rw [List.take_eq_take_iff]
  omega

/-- Without one item, the first of some different items are the first without it. -/
theorem take_filter_take {ids : List String} (hnodup : ids.Nodup) (id : String) (count : Nat) :
    ((ids.take (count + 1)).filter (· ≠ id)).take count = (ids.filter (· ≠ id)).take count := by
  have hsplit : ids.filter (· ≠ id) =
      (ids.take (count + 1)).filter (· ≠ id) ++ (ids.drop (count + 1)).filter (· ≠ id) := by
    rw [← List.filter_append, List.take_append_drop]
  rcases Nat.lt_or_ge ids.length (count + 1) with hshort | hlong
  · rw [List.take_of_length_le (Nat.le_of_lt hshort)]
  · -- At most one of the first items is left out, so that `count` of them remain.
    have hmany : count ≤ ((ids.take (count + 1)).filter (· ≠ id)).length := by
      have herase : (ids.take (count + 1)).length - 1 ≤ ((ids.take (count + 1)).erase id).length :=
        List.le_length_erase
      rw [(hnodup.sublist (List.take_sublist _ _)).erase_eq_filter, List.length_take] at herase
      have heq : (ids.take (count + 1)).filter (· != id) =
          (ids.take (count + 1)).filter (· ≠ id) :=
        List.filter_congr fun a _ => by simp [bne, Bool.beq_eq_decide_eq]
      rw [heq] at herase
      omega
    rw [hsplit, List.take_append_of_le_length hmany]

/-- Remembering one more session puts it behind the latest of the others. -/
theorem latestIds_concat (count : Nat) (operations : List SessionOperation) (hid : id ≠ "")
    (d : Document) :
    latestIds (count + 1) (operations ++ [.remember id d]) =
      ((((distinct (rememberedIds operations).reverse).filter (· ≠ id)).take count).reverse) ++
        [id] := by
  simp [latestIds, rememberedIds_remember hid, distinct]

/-- Without clearing, the latest sessions are held. -/
theorem ids_performAll (h : 0 < capacity)
    (hkept : ∀ id, SessionOperation.clear id ∉ operations) :
    ((empty capacity).performAll operations).ids = latestIds capacity operations := by
  induction operations using List.reverseRecOn with
  | nil => simp [latestIds, rememberedIds, distinct, ids, empty, OrderedMap.keys, OrderedMap.empty]
  | append_singleton operations operation ih =>
      have hbefore := ih fun id hmem => hkept id (List.mem_append_left _ hmem)
      have hquiet : ∀ quiet : SessionOperation, remembered? quiet = none →
          latestIds capacity (operations ++ [quiet]) = latestIds capacity operations := by
        intro quiet hquiet
        simp [latestIds, rememberedIds, hquiet]
      rw [performAll_append, performAll_singleton]
      cases operation with
      | remember id d =>
          by_cases hid : id = ""
          · rw [hid, hquiet _ rfl]
            exact hbefore
          · obtain ⟨count, rfl⟩ : ∃ count, capacity = count + 1 := ⟨capacity - 1, by omega⟩
            have hnodup := nodup_distinct (rememberedIds operations).reverse
            rw [latestIds_concat count operations hid, ← take_filter_take hnodup]
            rw [perform, ids_remember hid (by simp), hbefore, latestIds, capacity_performAll,
              capacity_empty, List.filter_reverse, List.length_reverse, Nat.add_sub_add_right,
              drop_reverse_length_sub]
      | get id =>
          rw [hquiet _ rfl]
          exact hbefore
      | clear id => exact absurd (List.mem_append_right _ List.mem_cons_self) (hkept id)

/-! ## The whole history -/

/-- After any operations one after another on sessions that start empty: there are no more sessions than
there is room for, under different names that are not empty; they stand in the order in which each was
remembered last, and a look-up, which changes nothing, gives the document that was remembered last.  A
session is held if it was not cleared since it was remembered last and fewer others were remembered
since than there is room for.  Without clearing, exactly the latest sessions are held. -/
theorem performAll_latest {capacity : Nat} (h : 0 < capacity)
    (operations : List SessionOperation) :
    let s := (empty capacity).performAll operations
    (s.size ≤ capacity ∧ s.ids.Nodup ∧ "" ∉ s.ids) ∧
      s.ids.Pairwise (RememberedBefore operations) ∧
      (∀ id, (s.perform (.get id)).1 = s) ∧
      (∀ id ∈ s.ids, ∃ d, (s.perform (.get id)).2 = some d ∧ LastRemembered operations id d) ∧
      (∀ before id d later, operations = before ++ .remember id d :: later → id ≠ "" →
        (∀ operation ∈ later, ¬operation.Touches id) →
        (distinct (rememberedIds later)).length < capacity →
          (s.perform (.get id)).2 = some d) ∧
      ((∀ id, SessionOperation.clear id ∉ operations) → s.ids = latestIds capacity operations) := by
  intro s
  have hrecent : Recent operations s := Recent.performAll h operations
  have hcapacity : s.capacity = capacity := by simp [s]
  refine ⟨⟨?size, s.nodup_ids, hrecent.named⟩, hrecent.ordered, fun _ => rfl, ?latest, ?kept,
    ids_performAll h⟩
  case size =>
    rw [← hcapacity]
    exact hrecent.bounded.size_le
  case latest =>
    intro id hid
    exact hrecent.exists_lastRemembered hid
  case kept =>
    intro before id d later heq hid huntouched hfew
    simp only [s, heq]
    exact find?_performAll_of_few h hid huntouched hfew

/-- A document with one file. -/
def documentOf (source : String) : Document :=
  ⟨Meta.standard, standardEntryFile, OrderedMap.ofList [("/src/Video.tsx", source)], [], []⟩

/-- Three sessions on two places, where the first is remembered again before the third comes. -/
def crowdedHistory : List SessionOperation :=
  [.remember "a" (documentOf "1"), .remember "b" (documentOf "2"), .get "b",
   .remember "a" (documentOf "3"), .remember "" (documentOf "4"), .remember "c" (documentOf "5")]

/-- A history of three sessions on a store for two: the one remembered again stays. -/
theorem performAll_crowdedHistory :
    0 < 2 ∧ (∀ id, SessionOperation.clear id ∉ crowdedHistory) ∧
      ((empty 2).performAll crowdedHistory).ids = latestIds 2 crowdedHistory ∧
        latestIds 2 crowdedHistory = ["a", "c"] ∧
          (((empty 2).performAll crowdedHistory).perform (.get "a")).2 =
            some (documentOf "3") := by
  have hkept : ∀ id, SessionOperation.clear id ∉ crowdedHistory := by
    intro id
    simp [crowdedHistory]
  obtain ⟨_, _, _, _, hheld, hlatest⟩ := performAll_latest Nat.two_pos crowdedHistory
  refine ⟨Nat.two_pos, hkept, hlatest hkept, by decide, ?_⟩
  exact hheld (crowdedHistory.take 3) "a" (documentOf "3") (crowdedHistory.drop 4) rfl (by decide)
    (by simp [crowdedHistory, Touches]) (by decide)

end Sessions
end VideoBundle
