import VideoBundle.Proofs.Path.Canonical
import VideoBundle.Proofs.Project.Deletion
import VideoBundle.Proofs.Project.Merge

/-!
# Deleting under other spellings

The files of a project are kept under the paths that were written.  A path is deleted under the
spelling that is listed and under the canonical one.  A file that the project keeps under a third
spelling stays, and is compiled as before.

Main results:

- `mem_keys_delete_iff`: the spellings of a listed path that deleting leaves.
- `survives_delete_iff`: when a listed path is still compiled.
-/

namespace VideoBundle
namespace ProjectFiles

variable {files : ProjectFiles} {paths : List String} {path canonicalPath key : String}

/-- A path is deleted as it is written, and under its canonical spelling. -/
theorem mem_spellings_iff : key ∈ spellings path ↔ key = path ∨ Path.canonical? path = some key := by
  unfold spellings
  split
  · rename_i other hother
    split
    · rename_i heq
      simp [hother, heq, eq_comm]
    · simp [hother, eq_comm]
  · rename_i hnone
    simp [hnone]

/-- Of the keys that spell a listed path, deleting leaves those that are neither canonical nor listed
themselves. -/
theorem mem_keys_delete_iff (hpath : path ∈ paths)
    (hcanonical : Path.canonical? path = some canonicalPath)
    (hkey : Path.canonical? key = some canonicalPath) :
    key ∈ (files.delete paths).1.keys ↔ key ∈ files.keys ∧ key ≠ canonicalPath ∧ key ∉ paths := by
  have hlisted : key ∈ paths.flatMap spellings ↔ key = canonicalPath ∨ key ∈ paths := by
    simp only [List.mem_flatMap, mem_spellings_iff]
    constructor
    · rintro ⟨other, hother, rfl | hspelled⟩
      · exact .inr hother
      · -- A canonical spelling spells itself, so that the key is one only if it is this one.
        have hself := Path.canonical?_of_canonical? hspelled
        rw [hkey, Option.some_inj] at hself
        exact .inl hself.symm
    · rintro (rfl | hmem)
      · exact ⟨path, hpath, .inr hcanonical⟩
      · exact ⟨key, hmem, .inl rfl⟩
  rw [delete, keys_deleteKeys, List.mem_filter, decide_eq_true_eq, hlisted, not_or]

/-- A path is compiled exactly when a key spells it. -/
theorem contains_ofFields_iff {table : SourceTable}
    (h : SourceTable.ofFields (fields files) = .ok table) (path : String) :
    table.contains path = true ↔ ∃ key ∈ files.keys, Path.canonical? key = some path := by
  rw [OrderedMap.contains, SourceTable.find?_ofFields h, Option.isSome_map, latest_fields,
    Option.isSome_iff_exists]
  constructor
  · rintro ⟨source, hsource⟩
    obtain ⟨key, hlast, -⟩ := Option.bind_eq_some_iff.1 hsource
    exact ⟨key, lastSpelling_eq_some hlast⟩
  · rintro ⟨key, hmem, hkey⟩
    cases hlast : lastSpelling path files.keys with
    | none => exact absurd hkey (lastSpelling_eq_none_iff.1 hlast key hmem)
    | some last =>
        have hlastMem := OrderedMap.mem_keys_iff.1 (lastSpelling_eq_some hlast).1
        exact OrderedMap.contains_eq_true_iff.1 hlastMem

/-- A file of a listed path stays exactly when the project kept it under a spelling that is neither
canonical nor listed itself, and then the path is compiled as before. -/
theorem survives_delete_iff (hpath : path ∈ paths)
    (hcanonical : Path.canonical? path = some canonicalPath) :
    (∀ key, Path.canonical? key = some canonicalPath →
      (key ∈ (files.delete paths).1.keys ↔
        key ∈ files.keys ∧ key ≠ canonicalPath ∧ key ∉ paths)) ∧
    ((∀ key ∈ (files.delete paths).1.keys, (Path.canonical? key).isSome) →
      ∃ table, SourceTable.ofFields (fields (files.delete paths).1) = .ok table ∧
        (table.contains canonicalPath = true ↔
          ∃ key ∈ files.keys, Path.canonical? key = some canonicalPath ∧ key ≠ canonicalPath ∧
            key ∉ paths)) := by
  refine ⟨fun key hkey => mem_keys_delete_iff hpath hcanonical hkey, fun hleft => ?_⟩
  obtain ⟨table, htable⟩ := SourceTable.isOk_ofFields_iff.2 (enterable_fields_iff.2 hleft)
  refine ⟨table, htable, ?_⟩
  rw [contains_ofFields_iff htable]
  constructor
  · rintro ⟨key, hmem, hkey⟩
    obtain ⟨hwas, hhidden⟩ := (mem_keys_delete_iff hpath hcanonical hkey).1 hmem
    exact ⟨key, hwas, hkey, hhidden⟩
  · rintro ⟨key, hwas, hkey, hhidden⟩
    exact ⟨key, (mem_keys_delete_iff hpath hcanonical hkey).2 ⟨hwas, hhidden⟩, hkey⟩

/-- A project that keeps a file under a path without its leading slash. -/
def unrooted : ProjectFiles := OrderedMap.ofList [("src/Old.tsx", "x"), ("/src/Keep.tsx", "y")]

/-- A file of `unrooted` is compiled after its path was deleted. -/
theorem delete_unrooted :
    ∃ table, SourceTable.ofFields (fields (unrooted.delete ["/src/Old.tsx"]).1) = .ok table ∧
      table.contains "/src/Old.tsx" = true := by
  have hcanonical : Path.canonical? "/src/Old.tsx" = some "/src/Old.tsx" := by decide +kernel
  have hleft : ∀ key ∈ (unrooted.delete ["/src/Old.tsx"]).1.keys,
      (Path.canonical? key).isSome := by
    decide +kernel
  obtain ⟨table, htable, hcontains⟩ :=
    (survives_delete_iff (List.mem_singleton_self _) hcanonical).2 hleft
  exact ⟨table, htable, hcontains.2 ⟨"src/Old.tsx", by decide +kernel⟩⟩

/-- Deleting a path does not always delete the file. -/
theorem unrooted_survives :
    ¬ ∀ (files : ProjectFiles) (paths : List String), ∀ path ∈ paths, ∀ canonicalPath,
      Path.canonical? path = some canonicalPath →
        ∀ key ∈ (files.delete paths).1.keys, Path.canonical? key ≠ some canonicalPath := by
  intro h
  exact h unrooted ["/src/Old.tsx"] "/src/Old.tsx" (List.mem_singleton_self _) "/src/Old.tsx"
    (by decide +kernel) "src/Old.tsx" (by decide +kernel) (by decide +kernel)

end ProjectFiles
end VideoBundle
