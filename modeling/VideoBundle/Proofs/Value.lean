import Mathlib.Data.List.Nodup
import VideoBundle.Value.Display

/-!
# All parts of a value

A property of values is asked of a value and of everything inside it: of the items of lists and of the
values of objects, however deep.

Main results:

- `everywhere_list_iff`, `everywhere_object_iff`: a property everywhere in a list or an object.
- `hasDistinctKeys_object_iff`, `hasFiniteFloats_object_iff`: the two properties of data that can be
  written as a strict JSON text and read back.
- `isWritable_list_iff`, `isWritable_object_iff`: what is writable as a whole is so in its parts.
- `HasDistinctKeys.mapText`: distinct keys stay distinct when no two texts become one.
-/

namespace VideoBundle
namespace Value

variable {τ σ : Type}

mutual

/-- Whether a value and all values inside it have a property. -/
def Everywhere (p : Value τ → Prop) : Value τ → Prop
  | list items => p (list items) ∧ EverywhereItems p items
  | object entries => p (object entries) ∧ EverywhereEntries p entries
  | null => p null
  | bool b => p (bool b)
  | number n => p (number n)
  | text t => p (text t)

/-- `Everywhere` for all items of a list. -/
def EverywhereItems (p : Value τ → Prop) : List (Value τ) → Prop
  | [] => True
  | v :: vs => Everywhere p v ∧ EverywhereItems p vs

/-- `Everywhere` for all values of entries. -/
def EverywhereEntries (p : Value τ → Prop) : List (τ × Value τ) → Prop
  | [] => True
  | (_, v) :: es => Everywhere p v ∧ EverywhereEntries p es

end

variable {p : Value τ → Prop}

/-- The items of a list one by one. -/
theorem everywhereItems_iff {vs : List (Value τ)} :
    EverywhereItems p vs ↔ ∀ v ∈ vs, v.Everywhere p := by
  induction vs with
  | nil => simp [EverywhereItems]
  | cons v vs ih => simp [EverywhereItems, ih]

theorem everywhereEntries_iff {es : List (τ × Value τ)} :
    EverywhereEntries p es ↔ ∀ e ∈ es, e.2.Everywhere p := by
  induction es with
  | nil => simp [EverywhereEntries]
  | cons e es ih => simp [EverywhereEntries, ih]

/-- A condition holds everywhere in a list if it holds of it and everywhere in its items. -/
theorem everywhere_list_iff {items : List (Value τ)} :
    (list items).Everywhere p ↔ p (list items) ∧ ∀ v ∈ items, v.Everywhere p := by
  rw [Everywhere, everywhereItems_iff]

/-- A condition holds everywhere in an object if it holds of it and everywhere in its values. -/
theorem everywhere_object_iff {entries : List (τ × Value τ)} :
    (object entries).Everywhere p ↔ p (object entries) ∧ ∀ e ∈ entries, e.2.Everywhere p := by
  rw [Everywhere, everywhereEntries_iff]

/-! ## Properties of values -/

/-- Whether no object in a value has two entries under one key. -/
def HasDistinctKeys (v : Value τ) : Prop :=
  v.Everywhere fun
    | object entries => (entries.map Prod.fst).Nodup
    | _ => True

/-- Whether all binary numbers in a value are finite. -/
def HasFiniteFloats (v : Value τ) : Prop :=
  v.Everywhere fun
    | number (.float x) => x.isFinite = true
    | _ => True

/-- A number has finite floats exactly if it is no infinite float and not the one that is no
number. -/
theorem hasFiniteFloats_number_iff {n : Number} :
    (number n : Value τ).HasFiniteFloats ↔ ∀ x, n = .float x → x.isFinite = true := by
  cases n with
  | int i => exact iff_of_true trivial (by simp)
  | float x => exact ⟨fun h y hy => by cases hy; exact h, fun h => h x rfl⟩

theorem hasDistinctKeys_list_iff {items : List (Value τ)} :
    (list items).HasDistinctKeys ↔ ∀ v ∈ items, v.HasDistinctKeys :=
  everywhere_list_iff.trans (iff_of_eq (true_and _))

/-- An object has distinct keys exactly if its own are distinct and its values have them. -/
theorem hasDistinctKeys_object_iff {entries : List (τ × Value τ)} :
    (object entries).HasDistinctKeys ↔
      (entries.map Prod.fst).Nodup ∧ ∀ e ∈ entries, e.2.HasDistinctKeys :=
  everywhere_object_iff

theorem hasFiniteFloats_list_iff {items : List (Value τ)} :
    (list items).HasFiniteFloats ↔ ∀ v ∈ items, v.HasFiniteFloats :=
  everywhere_list_iff.trans (iff_of_eq (true_and _))

theorem hasFiniteFloats_object_iff {entries : List (τ × Value τ)} :
    (object entries).HasFiniteFloats ↔ ∀ e ∈ entries, e.2.HasFiniteFloats :=
  everywhere_object_iff.trans (iff_of_eq (true_and _))

theorem isWritable_list_iff {items : List (Value τ)} :
    (list items).isWritable = true ↔ ∀ v ∈ items, v.isWritable = true := by
  rw [isWritable]
  induction items with
  | nil => simp [areWritableItems]
  | cons v vs ih => rw [areWritableItems, Bool.and_eq_true, ih, List.forall_mem_cons]

theorem isWritable_object_iff {entries : List (τ × Value τ)} :
    (object entries).isWritable = true ↔ ∀ e ∈ entries, e.2.isWritable = true := by
  rw [isWritable]
  induction entries with
  | nil => simp [areWritableEntries]
  | cons e es ih => rw [areWritableEntries, Bool.and_eq_true, ih, List.forall_mem_cons]

/-! ## Changed texts -/

theorem mapTextItems_eq_map (f : τ → σ) (vs : List (Value τ)) :
    mapTextItems f vs = vs.map (mapText f) := by
  induction vs with
  | nil => rfl
  | cons v vs ih => rw [mapTextItems, List.map_cons, ih]

theorem mapTextEntries_eq_map (f : τ → σ) (es : List (τ × Value τ)) :
    mapTextEntries f es = es.map fun e => (f e.1, e.2.mapText f) := by
  induction es with
  | nil => rfl
  | cons e es ih =>
      obtain ⟨k, v⟩ := e
      rw [mapTextEntries, List.map_cons, ih]

mutual

/-- Whether a value is writable does not depend on its texts. -/
theorem isWritable_mapText (f : τ → σ) (v : Value τ) : (v.mapText f).isWritable = v.isWritable := by
  cases v with
  | null | bool _ | number _ | text _ => rfl
  | list items => exact areWritableItems_mapTextItems f items
  | object entries => exact areWritableEntries_mapTextEntries f entries

/-- Mapping texts does not bear on what can be written, by induction with the values. -/
theorem areWritableItems_mapTextItems (f : τ → σ) (vs : List (Value τ)) :
    areWritableItems (mapTextItems f vs) = areWritableItems vs := by
  cases vs with
  | nil => rfl
  | cons v vs =>
      rw [mapTextItems, areWritableItems, areWritableItems, isWritable_mapText f v,
        areWritableItems_mapTextItems f vs]

theorem areWritableEntries_mapTextEntries (f : τ → σ) (es : List (τ × Value τ)) :
    areWritableEntries (mapTextEntries f es) = areWritableEntries es := by
  cases es with
  | nil => rfl
  | cons e es =>
      obtain ⟨k, v⟩ := e
      rw [mapTextEntries, areWritableEntries, areWritableEntries, isWritable_mapText f v,
        areWritableEntries_mapTextEntries f es]

end

/-- Values stay apart when texts can be changed back. -/
theorem mapText_injective {f : τ → σ} {g : σ → τ} (h : ∀ t, g (f t) = t) :
    Function.Injective (mapText f) := by
  have hinverse : Function.LeftInverse (mapText g) (mapText f) := fun v => by
    rw [mapText_mapText, mapText_eq_self _ h]
  exact hinverse.injective

/-- Of changed entries the same ones are kept when no two keys become one. -/
theorem collapseEntries_mapTextEntries [DecidableEq τ] [DecidableEq σ] {f : τ → σ}
    (hf : Function.Injective f) (es : List (τ × Value τ)) :
    collapseEntries (mapTextEntries f es) = mapTextEntries f (collapseEntries es) := by
  have hinsert : ∀ (k : τ) (v : Value τ) (done : List (τ × Value τ)),
      insertEntry (f k) (v.mapText f) (mapTextEntries f done) =
        mapTextEntries f (insertEntry k v done) := by
    intro k v done
    induction done with
    | nil => rfl
    | cons e done ih =>
        obtain ⟨key, value⟩ := e
        by_cases hkey : key = k
        · simp [mapTextEntries, insertEntry, hkey]
        · simp [mapTextEntries, insertEntry, hkey, hf.ne hkey, ih]
  have hfold : ∀ (es done : List (τ × Value τ)),
      (mapTextEntries f es).foldl (fun done e => insertEntry e.1 e.2 done) (mapTextEntries f done) =
        mapTextEntries f (es.foldl (fun done e => insertEntry e.1 e.2 done) done) := by
    intro es
    induction es with
    | nil => exact fun _ => rfl
    | cons e es ih =>
        intro done
        rw [mapTextEntries, List.foldl_cons, hinsert, ih, List.foldl_cons]
  exact hfold es []

/-- The keys of entries whose texts were changed. -/
theorem keys_mapTextEntries (f : τ → σ) (es : List (τ × Value τ)) :
    (mapTextEntries f es).map Prod.fst = (es.map Prod.fst).map f := by
  rw [mapTextEntries_eq_map, List.map_map, List.map_map]
  rfl

mutual

/-- Keys stay distinct when no two texts become one. -/
theorem HasDistinctKeys.mapText {f : τ → σ} (hf : Function.Injective f) {v : Value τ}
    (h : v.HasDistinctKeys) : (v.mapText f).HasDistinctKeys := by
  cases v with
  | null => trivial
  | bool b => trivial
  | number n => trivial
  | text t => trivial
  | list items =>
      rw [Value.mapText, hasDistinctKeys_list_iff]
      exact hasDistinctKeys_mapTextItems hf (hasDistinctKeys_list_iff.1 h)
  | object entries =>
      rw [hasDistinctKeys_object_iff] at h
      rw [Value.mapText, hasDistinctKeys_object_iff, keys_mapTextEntries]
      exact ⟨h.1.map hf, hasDistinctKeys_mapTextEntries hf h.2⟩

/-- An injective map keeps the keys in items distinct. -/
theorem hasDistinctKeys_mapTextItems {f : τ → σ} (hf : Function.Injective f) {vs : List (Value τ)}
    (h : ∀ v ∈ vs, v.HasDistinctKeys) : ∀ v ∈ mapTextItems f vs, v.HasDistinctKeys := by
  cases vs with
  | nil => exact List.forall_mem_nil _
  | cons v vs =>
      rw [List.forall_mem_cons] at h
      rw [mapTextItems, List.forall_mem_cons]
      exact ⟨h.1.mapText hf, hasDistinctKeys_mapTextItems hf h.2⟩

theorem hasDistinctKeys_mapTextEntries {f : τ → σ} (hf : Function.Injective f)
    {es : List (τ × Value τ)} (h : ∀ e ∈ es, e.2.HasDistinctKeys) :
    ∀ e ∈ mapTextEntries f es, e.2.HasDistinctKeys := by
  cases es with
  | nil => exact List.forall_mem_nil _
  | cons e es =>
      obtain ⟨k, v⟩ := e
      rw [List.forall_mem_cons] at h
      rw [mapTextEntries, List.forall_mem_cons]
      exact ⟨h.1.mapText hf, hasDistinctKeys_mapTextEntries hf h.2⟩

end

mutual

/-- Keys that are distinct as changed texts are distinct. -/
theorem HasDistinctKeys.of_mapText {f : τ → σ} {v : Value τ} (h : (v.mapText f).HasDistinctKeys) :
    v.HasDistinctKeys := by
  cases v with
  | null | bool _ | number _ | text _ => trivial
  | list items =>
      rw [Value.mapText, hasDistinctKeys_list_iff] at h
      exact hasDistinctKeys_list_iff.2 (hasDistinctKeys_of_mapTextItems h)
  | object entries =>
      rw [Value.mapText, hasDistinctKeys_object_iff, keys_mapTextEntries] at h
      exact hasDistinctKeys_object_iff.2 ⟨h.1.of_map f, hasDistinctKeys_of_mapTextEntries h.2⟩

/-- Keys in items that are distinct after a map were distinct before. -/
theorem hasDistinctKeys_of_mapTextItems {f : τ → σ} {vs : List (Value τ)}
    (h : ∀ v ∈ mapTextItems f vs, v.HasDistinctKeys) : ∀ v ∈ vs, v.HasDistinctKeys := by
  cases vs with
  | nil => exact List.forall_mem_nil _
  | cons v vs =>
      rw [mapTextItems, List.forall_mem_cons] at h
      rw [List.forall_mem_cons]
      exact ⟨.of_mapText h.1, hasDistinctKeys_of_mapTextItems h.2⟩

theorem hasDistinctKeys_of_mapTextEntries {f : τ → σ} {es : List (τ × Value τ)}
    (h : ∀ e ∈ mapTextEntries f es, e.2.HasDistinctKeys) : ∀ e ∈ es, e.2.HasDistinctKeys := by
  cases es with
  | nil => exact List.forall_mem_nil _
  | cons e es =>
      obtain ⟨k, v⟩ := e
      rw [mapTextEntries, List.forall_mem_cons] at h
      rw [List.forall_mem_cons]
      exact ⟨.of_mapText h.1, hasDistinctKeys_of_mapTextEntries h.2⟩

end

/-! ## The texts of a value -/

mutual

/-- The texts of a value whose texts were changed. -/
theorem texts_mapText (f : τ → σ) (v : Value τ) : (v.mapText f).texts = v.texts.map f := by
  cases v with
  | null | bool _ | number _ | text _ => rfl
  | list items => exact textsOfItems_mapTextItems f items
  | object entries => exact textsOfEntries_mapTextEntries f entries

/-- The texts of mapped items are the mapped texts. -/
theorem textsOfItems_mapTextItems (f : τ → σ) (vs : List (Value τ)) :
    textsOfItems (mapTextItems f vs) = (textsOfItems vs).map f := by
  cases vs with
  | nil => rfl
  | cons v vs =>
      rw [mapTextItems, textsOfItems, textsOfItems, List.map_append, texts_mapText f v,
        textsOfItems_mapTextItems f vs]

theorem textsOfEntries_mapTextEntries (f : τ → σ) (es : List (τ × Value τ)) :
    textsOfEntries (mapTextEntries f es) = (textsOfEntries es).map f := by
  cases es with
  | nil => rfl
  | cons e es =>
      obtain ⟨k, v⟩ := e
      rw [mapTextEntries, textsOfEntries, textsOfEntries, List.map_cons, List.map_append,
        texts_mapText f v, textsOfEntries_mapTextEntries f es]

end

end Value
end VideoBundle
