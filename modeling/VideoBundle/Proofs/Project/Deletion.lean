import VideoBundle.Project.Draft

/-!
# Deleting files

Deleting keys one after another is dropping every entry that is listed.  The others keep their texts
and their order.

Main results:

- `entries_deleteKeys`: what deleting leaves.
- `deleteKeys_overlay`: merging the same files again and deleting again changes nothing.
-/

namespace VideoBundle
namespace ProjectFiles

/-- Erasing a key that is not there changes nothing. -/
theorem entries_erase_of_not_contains {files : ProjectFiles} {key : String}
    (h : ¬files.contains key = true) : eraseEntry key files.entries = files.entries := by
  refine List.filter_eq_self.2 fun entry hentry => decide_eq_true fun heq => h ?_
  rw [← OrderedMap.mem_keys_iff, ← heq]
  exact List.mem_map_of_mem hentry

/-- Deleting keys leaves the entries under the other ones, in their order. -/
theorem entries_deleteKeys (files : ProjectFiles) (keys : List String) :
    (files.deleteKeys keys).1.entries = files.entries.filter fun entry => entry.1 ∉ keys := by
  induction keys generalizing files with
  | nil => exact (List.filter_eq_self.2 (by simp)).symm
  | cons key keys ih =>
      have hfirst : (files.deleteKeys (key :: keys)).1.entries =
          (eraseEntry key files.entries).filter fun entry => entry.1 ∉ keys := by
        rw [deleteKeys]
        split
        · exact ih _
        · rename_i habsent
          rw [ih, entries_erase_of_not_contains habsent]
      rw [hfirst, eraseEntry, List.filter_filter]
      refine List.filter_congr fun entry _ => ?_
      simp [Bool.and_comm]

/-- The keys that are not deleted stay, in their order. -/
theorem keys_deleteKeys (files : ProjectFiles) (keys : List String) :
    (files.deleteKeys keys).1.keys = files.keys.filter fun key => key ∉ keys := by
  simp only [OrderedMap.keys, entries_deleteKeys, List.filter_map]
  rfl

/-- The files that are not deleted stay as they are. -/
theorem find?_deleteKeys (files : ProjectFiles) (keys : List String) (key : String) :
    (files.deleteKeys keys).1.find? key = if key ∈ keys then none else files.find? key := by
  rw [OrderedMap.find?, entries_deleteKeys,
    lookupEntry_filter files.entries (fun key => decide (key ∉ keys)) key]
  by_cases hkey : key ∈ keys <;> simp [hkey, OrderedMap.find?]

/-- Keys can be deleted once only. -/
theorem deleteKeys_deleteKeys (files : ProjectFiles) (keys : List String) :
    ((files.deleteKeys keys).1.deleteKeys keys).1 = (files.deleteKeys keys).1 := by
  apply OrderedMap.ext
  rw [entries_deleteKeys, entries_deleteKeys, List.filter_filter]
  simp

/-- Files are merged and keys are deleted; to do both again changes nothing.  The files that the second
merge brings back, at the end, are the ones that are deleted again. -/
theorem deleteKeys_overlay (base top : ProjectFiles) (keys : List String) :
    (deleteKeys (OrderedMap.overlay (deleteKeys (base.overlay top) keys).1 top) keys).1 =
      (deleteKeys (base.overlay top) keys).1 := by
  apply OrderedMap.ext_keys
  · have hreturning : (top.keys.filter fun key =>
        !(deleteKeys (base.overlay top) keys).1.contains key).filter (fun key => key ∉ keys) = [] := by
      rw [List.filter_filter, List.filter_eq_nil_iff]
      intro key hkey hback
      obtain ⟨text, htext⟩ := OrderedMap.contains_eq_true_iff.1 (OrderedMap.mem_keys_iff.1 hkey)
      simp [OrderedMap.contains, find?_deleteKeys, OrderedMap.find?_overlay, htext] at hback
    rw [keys_deleteKeys, OrderedMap.keys_overlay, List.filter_append, hreturning, List.append_nil,
      keys_deleteKeys, List.filter_filter]
    simp
  · intro key
    rw [find?_deleteKeys, OrderedMap.find?_overlay, find?_deleteKeys, OrderedMap.find?_overlay]
    by_cases hkey : key ∈ keys
    · simp [hkey]
    · cases htop : top.find? key <;> simp [hkey]

end ProjectFiles
end VideoBundle
