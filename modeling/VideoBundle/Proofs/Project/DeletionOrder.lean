import VideoBundle.Proofs.Project.Spellings

/-!
# Deleting in any order

Paths are deleted one after another, each under one or two spellings.  A spelling that was deleted before
is not counted again, so that the count is the number of files that are gone.  What is left does not
depend on the order of the paths or on how often one is listed.

Main results:

- `size_deleteKeys`: the count and what is left make up the files.
- `entries_delete`: what deleting paths leaves.
- `delete_congr`: lists of the same paths delete the same files and count the same.
-/

namespace VideoBundle
namespace ProjectFiles

variable {files : ProjectFiles} {paths : List String}

/-- Whether a key is a listed path, as it is written or in its canonical spelling. -/
def Listed (paths : List String) (key : String) : Prop :=
  ∃ path ∈ paths, key = path ∨ Path.canonical? path = some key

instance (paths : List String) (key : String) : Decidable (Listed paths key) := by
  unfold Listed
  infer_instance

/-- The spellings that are tried are those that are listed. -/
theorem mem_flatMap_spellings_iff {key : String} :
    key ∈ paths.flatMap spellings ↔ Listed paths key := by
  simp only [List.mem_flatMap, mem_spellings_iff, Listed]

/-- A key that is deleted is one file less. -/
theorem size_erase {key : String} (h : files.contains key = true) :
    (OrderedMap.erase files key).size + 1 = files.size := by
  have hmem : key ∈ files.keys := OrderedMap.mem_keys_iff.2 h
  have hkeys : (OrderedMap.erase files key).keys = files.keys.erase key := by
    have hnodup : files.keys.Nodup := files.distinctKeys
    rw [OrderedMap.keys_erase, hnodup.erase_eq_filter]
    refine List.filter_congr fun other _ => ?_
    by_cases hother : other = key <;> simp [hother]
  have hpos : 0 < files.keys.length := List.length_pos_of_mem hmem
  rw [← OrderedMap.length_keys, ← OrderedMap.length_keys, hkeys, List.length_erase_of_mem hmem]
  omega

/-- Every file is left or counted, and none is both. -/
theorem size_deleteKeys (files : ProjectFiles) (keys : List String) :
    (files.deleteKeys keys).1.size + (files.deleteKeys keys).2 = files.size := by
  induction keys generalizing files with
  | nil => rfl
  | cons key keys ih =>
      rw [deleteKeys]
      split
      · rename_i hpresent
        rw [← size_erase hpresent, ← ih (OrderedMap.erase files key), Nat.add_assoc]
      · exact ih files

/-- Deleting paths leaves the files that are not listed, with their texts and in their order. -/
theorem entries_delete (files : ProjectFiles) (paths : List String) :
    (files.delete paths).1.entries = files.entries.filter fun entry => ¬Listed paths entry.1 := by
  rw [delete, entries_deleteKeys]
  exact List.filter_congr fun entry _ => decide_eq_decide.2 (not_congr mem_flatMap_spellings_iff)

/-- Each file that is gone was counted once. -/
theorem size_delete (files : ProjectFiles) (paths : List String) :
    (files.delete paths).1.size + (files.delete paths).2 = files.size :=
  size_deleteKeys files (paths.flatMap spellings)

/-- Lists of the same paths delete the same files and count the same. -/
theorem delete_congr {paths' : List String} (h : ∀ path, path ∈ paths' ↔ path ∈ paths) :
    files.delete paths' = files.delete paths := by
  have hlisted (key : String) : Listed paths' key ↔ Listed paths key := by
    simp only [Listed, h]
  have hleft : (files.delete paths').1 = (files.delete paths).1 := by
    apply OrderedMap.ext
    rw [entries_delete, entries_delete]
    exact List.filter_congr fun entry _ => decide_eq_decide.2 (not_congr (hlisted entry.1))
  -- What is left decides the count.
  have hcount := size_delete files paths
  have hcount' := size_delete files paths'
  rw [hleft] at hcount'
  exact Prod.ext hleft (by omega)

/-- Deleting paths leaves the files whose key is neither a listed path nor the canonical spelling of one,
and counts the others; neither the order of the paths matters nor how often one is listed. -/
theorem delete_listed (files : ProjectFiles) (paths : List String) :
    (files.delete paths).1.entries =
        files.entries.filter (fun entry =>
          ¬∃ path ∈ paths, entry.1 = path ∨ Path.canonical? path = some entry.1) ∧
      (files.delete paths).1.size + (files.delete paths).2 = files.size ∧
      ∀ paths', (∀ path, path ∈ paths' ↔ path ∈ paths) →
        files.delete paths' = files.delete paths := by
  refine ⟨?left, size_delete files paths, fun paths' h => delete_congr h⟩
  case left =>
    rw [entries_delete]
    exact List.filter_congr fun entry _ => decide_eq_decide.2 Iff.rfl

/-- A file under two spellings, of which either path deletes the second. -/
def spelledTwice : ProjectFiles :=
  OrderedMap.ofList [("src\\a.ts", "1"), ("/src/a.ts", "2"), ("/src/b.ts", "3")]

/-- Whichever path comes first takes the file that the other would count. -/
theorem delete_listed_spelledTwice :
    (∀ path, path ∈ ["/src/a.ts", "src\\a.ts", "/src/a.ts"] ↔ path ∈ ["src\\a.ts", "/src/a.ts"]) ∧
      spelledTwice.delete ["/src/a.ts", "src\\a.ts", "/src/a.ts"] =
        spelledTwice.delete ["src\\a.ts", "/src/a.ts"] ∧
      (spelledTwice.delete ["src\\a.ts", "/src/a.ts"]).2 = 2 := by
  have hsame : ∀ path, path ∈ ["/src/a.ts", "src\\a.ts", "/src/a.ts"] ↔
      path ∈ ["src\\a.ts", "/src/a.ts"] := by
    intro path
    simp only [List.mem_cons, List.not_mem_nil, or_false]
    grind
  refine ⟨hsame, (delete_listed spelledTwice _).2.2 _ hsame, ?_⟩
  decide +kernel

end ProjectFiles
end VideoBundle
