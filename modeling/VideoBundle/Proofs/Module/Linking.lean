import Mathlib.Data.List.Forall2
import VideoBundle.Module.Basic
import VideoBundle.Proofs.Json.RoundTrip

/-!
# What a bundle tells of its modules

A bundle is read from left to right.  Identifiers and dependencies are written as JSON texts, which show
where they end, whatever characters they hold; only the code of a module does not.  So bundles of the same
code are the same text exactly when they were linked from the same modules for the same entry.

Main results:

- `sortedObject_eq_iff`: the written dependencies are those of the finite map, in no order of their own.
- `definition_append_inj`: the definition of a module can be told from what follows it.
- `link_eq_iff`: when two bundles of the same code are equal.
-/

namespace VideoBundle

/-- Whether two modules lead the same specifiers to the same modules. -/
def Module.SameDependencies (a b : Module) : Prop :=
  ∀ specifier, a.dependencies.find? specifier = b.dependencies.find? specifier

namespace ModuleTable

/-- The modules of a table in order. -/
def modules (table : ModuleTable) : List Module := table.entries.map Prod.snd

/-! ## Dependencies -/

theorem lookupEntry_map_keys {υ : Type} (f : String → υ) (keys : List String) (key : String) :
    lookupEntry key (keys.map fun k => (k, f k)) = if key ∈ keys then some (f key) else none := by
  induction keys with
  | nil => rfl
  | cons k keys ih =>
      by_cases hk : k = key
      · simp [lookupEntry, hk]
      · simp [lookupEntry, hk, Ne.symm hk, ih]

/-- Under each key a sorted object has the text of the map. -/
theorem field?_sortedObject (m : OrderedMap String String) (key : String) :
    (sortedObject m).field? key = (m.find? key).map .text := by
  rw [sortedObject, Value.field?, lookupEntry_map_keys]
  simp only [mem_sortTexts]
  cases hfind : m.find? key with
  | none =>
      have habsent : key ∉ m.keys := lookupEntry_eq_none_iff.1 hfind
      rw [if_neg habsent]
      rfl
  | some text =>
      rw [if_pos (OrderedMap.mem_keys_iff.2 (OrderedMap.contains_of_find? hfind))]
      rfl

/-- Sorting forgets the order of a map and nothing else. -/
theorem sortedObject_eq_iff {m n : OrderedMap String String} :
    sortedObject m = sortedObject n ↔ ∀ key, m.find? key = n.find? key := by
  constructor
  · intro h key
    have hfield := congrArg (·.field? key) h
    simp only [field?_sortedObject] at hfield
    exact Option.map_injective (fun _ _ => Value.text.inj) hfield
  · intro h
    have hkeys := sortTexts_eq_of_perm (OrderedMap.keys_perm_of_find?_eq h)
    simp only [sortedObject, hkeys, h]

/-- A sorted object of texts can be restored from its text. -/
theorem restorable_sortedObject (m : OrderedMap String String) :
    Json.Restorable ((sortedObject m).mapText UnitText.ofString) := by
  refine Json.restorable_ofString (Value.isWritable_object_iff.2 ?_)
    (Value.hasDistinctKeys_object_iff.2 ⟨?_, ?_⟩)
  · rw [List.forall_mem_map]
    exact fun _ _ => rfl
  · rw [List.map_map]
    exact (List.map_id _).symm ▸ (List.mergeSort_perm _ _).nodup_iff.2 m.distinctKeys
  · rw [List.forall_mem_map]
    exact fun _ _ => trivial

/-- Written dependencies can be told from what follows their bracket. -/
theorem encode_sortedObject_append_inj {m n : OrderedMap String String} {cs ds : List Char}
    (h : (Json.encode (sortedObject m)).toList ++ ']' :: cs =
      (Json.encode (sortedObject n)).toList ++ ']' :: ds) :
    (∀ key, m.find? key = n.find? key) ∧ cs = ds := by
  rw [Json.encode, Json.encode, String.toList_ofList, String.toList_ofList] at h
  obtain ⟨hobject, hrest⟩ := Json.write_append_inj (restorable_sortedObject m)
    (restorable_sortedObject n) (Json.endsNumeral_close cs).2.1 (Json.endsNumeral_close ds).2.1 h
  exact ⟨sortedObject_eq_iff.1 (Value.mapText_injective UnitText.toText_ofString hobject),
    (List.cons.inj hrest).2⟩

/-! ## Definitions -/

/-- A literal is told from what follows it. -/
theorem literal_append_inj {s t : String} {cs ds : List Char}
    (h : (Json.literal s).toList ++ cs = (Json.literal t).toList ++ ds) : s = t ∧ cs = ds := by
  rw [Json.literal, Json.literal, String.toList_ofList, String.toList_ofList] at h
  exact (Json.writeUnits_append_inj h).imp_left fun hs => UnitText.ofString_injective hs

/-- The definition of a module can be told from what follows it, if its code is known. -/
theorem definition_append_inj {a b : Module} (hcode : a.code = b.code) {cs ds : List Char}
    (h : (definition a).toList ++ cs = (definition b).toList ++ ds) :
    a.id = b.id ∧ a.SameDependencies b ∧ cs = ds := by
  simp only [definition, hcode, String.toList_append, List.append_assoc,
    List.append_cancel_left_eq] at h
  obtain ⟨hid, h⟩ := literal_append_inj h
  simp only [List.append_cancel_left_eq] at h
  obtain ⟨hdependencies, hrest⟩ := encode_sortedObject_append_inj h
  exact ⟨hid, hdependencies, hrest⟩

/-- A definition depends on the code, the identifier and what is found under each specifier. -/
theorem definition_congr {a b : Module} (hcode : a.code = b.code) (hid : a.id = b.id)
    (hdependencies : a.SameDependencies b) : definition a = definition b := by
  rw [definition, definition, hcode, hid, sortedObject_eq_iff.2 hdependencies]

/-- The definitions of modules one behind the other. -/
def definitions (modules : List Module) : List Char :=
  ",\n".toList.intercalate (modules.map fun m => (definition m).toList)

theorem definitions_singleton (a : Module) : definitions [a] = (definition a).toList := by
  rw [definitions, List.map_singleton, List.intercalate_singleton]

theorem definitions_cons_cons (a b : Module) (modules : List Module) :
    definitions (a :: b :: modules) =
      (definition a).toList ++ (",\n".toList ++ definitions (b :: modules)) := by
  rw [definitions, List.map_cons, List.map_cons, List.intercalate_cons_cons, List.append_assoc]
  rfl

/-- The definitions of modules can be told from what follows them, if the code of each is known. -/
theorem definitions_append_inj {as bs : List Module}
    (hcodes : as.map Module.code = bs.map Module.code) {cs ds : List Char}
    (h : definitions as ++ cs = definitions bs ++ ds) :
    as.map Module.id = bs.map Module.id ∧ List.Forall₂ Module.SameDependencies as bs ∧ cs = ds := by
  induction as generalizing bs with
  | nil =>
      obtain rfl : bs = [] := List.map_eq_nil_iff.1 hcodes.symm
      exact ⟨rfl, .nil, h⟩
  | cons a as ih =>
      cases bs with
      | nil => cases hcodes
      | cons b bs =>
          simp only [List.map_cons, List.cons.injEq] at hcodes
          obtain ⟨hcode, hcodes⟩ := hcodes
          -- No comma stands behind the last definition, and both lists end together.
          cases as with
          | nil =>
              obtain rfl : bs = [] := List.map_eq_nil_iff.1 hcodes.symm
              rw [definitions_singleton, definitions_singleton] at h
              obtain ⟨hid, hdependencies, hrest⟩ := definition_append_inj hcode h
              exact ⟨by simp [hid], .cons hdependencies .nil, hrest⟩
          | cons a' as =>
              cases bs with
              | nil => cases hcodes
              | cons b' bs =>
                  simp only [definitions_cons_cons, List.append_assoc] at h
                  obtain ⟨hid, hdependencies, hrest⟩ := definition_append_inj hcode h
                  rw [List.append_cancel_left_eq] at hrest
                  obtain ⟨hids, hmore, hrest⟩ := ih hcodes hrest
                  exact ⟨by rw [List.map_cons, hid, hids, ← List.map_cons],
                    .cons hdependencies hmore, hrest⟩

/-! ## Bundles -/

theorem map_definition_congr {as bs : List Module}
    (hcodes : as.map Module.code = bs.map Module.code) (hids : as.map Module.id = bs.map Module.id)
    (hdependencies : List.Forall₂ Module.SameDependencies as bs) :
    as.map definition = bs.map definition := by
  induction hdependencies with
  | nil => rfl
  | cons hsame _ ih =>
      simp only [List.map_cons, List.cons.injEq] at hcodes hids ⊢
      exact ⟨definition_congr hcodes.1 hids.1 hsame, ih hcodes.2 hids.2⟩

/-- Two bundles of the same code are equal exactly when their modules have the same identifiers in the
same order and the same dependencies in any order, and the entry is the same. -/
theorem link_eq_iff {table other : ModuleTable} {entry otherEntry : String}
    (hcodes : table.modules.map Module.code = other.modules.map Module.code) :
    table.link entry = other.link otherEntry ↔
      table.modules.map Module.id = other.modules.map Module.id ∧
        List.Forall₂ Module.SameDependencies table.modules other.modules ∧ entry = otherEntry := by
  have hdefinitions : ∀ t : ModuleTable,
      (t.entries.map fun entry => definition entry.2) = t.modules.map definition := fun t => by
    rw [modules, List.map_map]
    rfl
  constructor
  · intro h
    have htext := congrArg String.toList h
    simp only [link, hdefinitions, joinLines, String.toList_intercalate, List.map_cons,
      List.intercalate_cons_cons, String.toList_append, List.append_assoc,
      List.append_cancel_left_eq] at htext
    rw [List.map_map, List.map_map] at htext
    obtain ⟨hids, hdependencies, hrest⟩ := definitions_append_inj hcodes htext
    simp only [List.append_cancel_left_eq] at hrest
    exact ⟨hids, hdependencies, (literal_append_inj hrest).1⟩
  · rintro ⟨hids, hdependencies, rfl⟩
    simp only [link, hdefinitions, map_definition_congr hcodes hids hdependencies]

/-- Two dependencies are looked up in either order. -/
theorem find?_ofList_swap {first second : String} (hne : first ≠ second) (target other : String)
    (specifier : String) :
    (OrderedMap.ofList [(first, target), (second, other)]).find? specifier =
      (OrderedMap.ofList [(second, other), (first, target)]).find? specifier := by
  rcases eq_or_ne first specifier with rfl | hfirst
  · simp [OrderedMap.ofList, OrderedMap.find?, collapseEntries, insertEntry, lookupEntry, hne, hne.symm]
  · simp [OrderedMap.ofList, OrderedMap.find?, collapseEntries, insertEntry, lookupEntry, hne, hne.symm,
      hfirst]

/-- A table of two modules.  The identifier of one holds a quote, a bracket and a line break, and the
code of the other looks like the end of a definition. -/
def pairedTable (first second : List (String × String)) : ModuleTable :=
  OrderedMap.ofList
    [("\"]\n", ⟨"\"]\n", "run();", OrderedMap.ofList first⟩),
      ("/é.ts", ⟨"/é.ts", "\n\x7d, \x7b\x7d],\n", OrderedMap.ofList second⟩)]

/-- The order in which either module has its dependencies leaves no trace in a bundle; another target
does, in the first module and in the second. -/
theorem link_eq_iff_pairedTable :
    (pairedTable [("\"", "é"), ("b", "\\")] [("./a", "\"]\n"), ("c", "c")]).link "\"]\n" =
        (pairedTable [("b", "\\"), ("\"", "é")] [("c", "c"), ("./a", "\"]\n")]).link "\"]\n" ∧
      (pairedTable [("\"", "é"), ("b", "\\")] [("./a", "\"]\n"), ("c", "c")]).link "\"]\n" ≠
        (pairedTable [("\"", "e"), ("b", "\\")] [("./a", "\"]\n"), ("c", "c")]).link "\"]\n" ∧
      (pairedTable [("\"", "é"), ("b", "\\")] [("./a", "\"]\n"), ("c", "c")]).link "\"]\n" ≠
        (pairedTable [("\"", "é"), ("b", "\\")] [("./a", "\"]"), ("c", "c")]).link "\"]\n" := by
  have hcodes : ∀ first second first' second',
      (pairedTable first second).modules.map Module.code =
        (pairedTable first' second').modules.map Module.code := fun _ _ _ _ => rfl
  refine ⟨?reordered, ?otherFirst, ?otherSecond⟩
  case reordered =>
    refine (link_eq_iff (hcodes _ _ _ _)).2 ⟨rfl, .cons ?_ (.cons ?_ .nil), rfl⟩
    · exact find?_ofList_swap (by decide) _ _
    · exact find?_ofList_swap (by decide) _ _
  case otherFirst =>
    intro h
    obtain ⟨-, hdependencies, -⟩ := (link_eq_iff (hcodes _ _ _ _)).1 h
    have hsame := (List.forall₂_cons.1 hdependencies).1 "\""
    simp [OrderedMap.ofList, OrderedMap.find?, collapseEntries, insertEntry, lookupEntry] at hsame
  case otherSecond =>
    intro h
    obtain ⟨-, hdependencies, -⟩ := (link_eq_iff (hcodes _ _ _ _)).1 h
    have hsame := (List.forall₂_cons.1 (List.forall₂_cons.1 hdependencies).2).1 "./a"
    simp [OrderedMap.ofList, OrderedMap.find?, collapseEntries, insertEntry, lookupEntry] at hsame

end ModuleTable
end VideoBundle
