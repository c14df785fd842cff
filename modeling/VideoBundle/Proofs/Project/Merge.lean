import VideoBundle.Project.Draft
import VideoBundle.Proofs.SourceTable
import VideoBundle.Proofs.Text.Points

/-!
# Merging spellings

Files are merged under the paths that were written, and compiled under the canonical ones.  A path may
have several spellings in one project.  Then the one that stands last in the order of the merged map
decides, and this need not be one that the request has written.

Main results:

- `latest_fields`: the text that is compiled stands under the last spelling.
- `not_overtaken_of_new`, `not_overtaken_of_canonical`: when an edit is safe.
- `merged_eq_overlay_iff`: a merge keeps every edit exactly when no path is overtaken.
-/

namespace VideoBundle
namespace ProjectFiles

/-- The last of some spellings that spell a path. -/
def lastSpelling (path : String) : List String → Option String
  | [] => none
  | spelling :: spellings =>
      (lastSpelling path spellings).or
        (if Path.canonical? spelling = some path then some spelling else none)

/-- The last spelling is looked for at the end first. -/
theorem lastSpelling_append (path : String) (before after : List String) :
    lastSpelling path (before ++ after) =
      (lastSpelling path after).or (lastSpelling path before) := by
  induction before with
  | nil => simp [lastSpelling]
  | cons spelling before ih => rw [List.cons_append, lastSpelling, ih, lastSpelling, Option.or_assoc]

/-- The last spelling of a path is one of the list and means that path. -/
theorem lastSpelling_eq_some {path spelling : String} {spellings : List String}
    (h : lastSpelling path spellings = some spelling) :
    spelling ∈ spellings ∧ Path.canonical? spelling = some path := by
  induction spellings with
  | nil => simp [lastSpelling] at h
  | cons first spellings ih =>
      rw [lastSpelling, Option.or_eq_some_iff] at h
      rcases h with h | ⟨_, h⟩
      · exact ⟨List.mem_cons_of_mem _ (ih h).1, (ih h).2⟩
      · split at h
        · cases h
          exact ⟨List.mem_cons_self, ‹_›⟩
        · simp at h

/-- There is no last spelling exactly if no spelling means the path. -/
theorem lastSpelling_eq_none_iff {path : String} {spellings : List String} :
    lastSpelling path spellings = none ↔
      ∀ spelling ∈ spellings, Path.canonical? spelling ≠ some path := by
  induction spellings with
  | nil => simp [lastSpelling]
  | cons first spellings ih => simp [lastSpelling, Option.or_eq_none_iff, ih, and_comm]

/-- Dropping other spellings keeps the last one. -/
theorem lastSpelling_filter {path spelling : String} {spellings : List String} {keep : String → Bool}
    (h : lastSpelling path spellings = some spelling) (hkeep : keep spelling = true) :
    lastSpelling path (spellings.filter keep) = some spelling := by
  induction spellings with
  | nil => simp [lastSpelling] at h
  | cons first spellings ih =>
      rw [lastSpelling, Option.or_eq_some_iff] at h
      rcases h with h | ⟨hnone, h⟩
      · rw [List.filter_cons]
        split
        · rw [lastSpelling, ih h, Option.some_or]
        · exact ih h
      · split at h
        · rename_i hpath
          cases h
          have hrest : lastSpelling path (spellings.filter keep) = none :=
            lastSpelling_eq_none_iff.2 fun other hother =>
              lastSpelling_eq_none_iff.1 hnone other (List.mem_filter.1 hother).1
          rw [List.filter_cons_of_pos hkeep, lastSpelling, hrest, Option.none_or, if_pos hpath]
        · simp at h

/-- The paths of a project that has a request merged into it, as they were written and in order. -/
def mergedKeys (base top : ProjectFiles) : List String :=
  base.keys ++ top.keys.filter fun key => !base.contains key

/-- The newest text of a path is overtaken: another text stands under the spelling that comes last in
the merged files. -/
def Overtaken (base top : ProjectFiles) (path : String) : Prop :=
  ∃ newest last, lastSpelling path top.keys = some newest ∧
    lastSpelling path (mergedKeys base top) = some last ∧
      (top.find? last).or (base.find? last) ≠ top.find? newest

/-! ## The text that is compiled -/

/-- With distinct keys the latest text is the one under the last spelling. -/
theorem latest_of_nodup (path : String) {entries : List (String × String)}
    (h : (entries.map Prod.fst).Nodup) :
    SourceTable.latest path (entries.map fun entry => (entry.1, .text entry.2)) =
      (lastSpelling path (entries.map Prod.fst)).bind (lookupEntry · entries) := by
  induction entries with
  | nil => rfl
  | cons entry entries ih =>
      obtain ⟨spelling, source⟩ := entry
      rw [List.map_cons, List.nodup_cons] at h
      rw [List.map_cons, SourceTable.latest, ih h.2, List.map_cons, lastSpelling]
      cases hlast : lastSpelling path (entries.map Prod.fst) with
      | none =>
          by_cases hpath : Path.canonical? spelling = some path
          · simp [hpath, Value.text?, lookupEntry]
          · simp [hpath]
      | some last =>
          have hne : spelling ≠ last := fun heq => h.1 (heq ▸ (lastSpelling_eq_some hlast).1)
          obtain ⟨text, hfind⟩ : ∃ text, lookupEntry last entries = some text := by
            obtain ⟨entry, hmem, hkey⟩ := List.mem_map.1 (lastSpelling_eq_some hlast).1
            exact ⟨entry.2, (lookupEntry_eq_some_iff h.2).2 (hkey ▸ hmem)⟩
          simp [lookupEntry, hne, hfind]

/-- The text that is compiled for a path stands under its last spelling. -/
theorem latest_fields (files : ProjectFiles) (path : String) :
    SourceTable.latest path (fields files) = (lastSpelling path files.keys).bind files.find? :=
  latest_of_nodup path files.distinctKeys

/-- A file map can be entered exactly if all its keys are paths. -/
theorem enterable_fields_iff {files : ProjectFiles} :
    SourceTable.Enterable (fields files) ↔ ∀ key ∈ files.keys, (Path.canonical? key).isSome := by
  rw [SourceTable.Enterable, fields, OrderedMap.keys, List.forall_mem_map, List.forall_mem_map]
  simp [Value.text?]

/-- An overlay of file maps can be entered if both can. -/
theorem enterable_overlay {base top : ProjectFiles} (hbase : SourceTable.Enterable (fields base))
    (htop : SourceTable.Enterable (fields top)) :
    SourceTable.Enterable (fields (base.overlay top)) := by
  rw [enterable_fields_iff] at hbase htop ⊢
  intro key hkey
  rw [OrderedMap.keys_overlay, List.mem_append] at hkey
  rcases hkey with hkey | hkey
  · exact hbase key hkey
  · exact htop key ((List.mem_filter.1 hkey).1)

/-! ## When edits survive -/

/-- A path whose newest spelling is new to the project is not overtaken. -/
theorem not_overtaken_of_new {base top : ProjectFiles} {path newest : String}
    (hnewest : lastSpelling path top.keys = some newest) (hnew : base.contains newest = false) :
    ¬Overtaken base top path := by
  rintro ⟨newest', last, hnewest', hlast, hne⟩
  rw [hnewest] at hnewest'
  cases hnewest'
  have hkept : lastSpelling path (top.keys.filter fun key => !base.contains key) = some newest :=
    lastSpelling_filter hnewest (by simp [hnew])
  rw [mergedKeys, lastSpelling_append, hkept, Option.some_or] at hlast
  cases hlast
  obtain ⟨text, hfind⟩ := OrderedMap.contains_eq_true_iff.1
    (OrderedMap.mem_keys_iff.1 (lastSpelling_eq_some hnewest).1)
  exact hne (by simp [hfind])

/-- No path is overtaken while all paths are spelled canonically. -/
theorem not_overtaken_of_canonical {base top : ProjectFiles}
    (h : ∀ key ∈ mergedKeys base top, Path.canonical? key = some key) (path : String) :
    ¬Overtaken base top path := by
  rintro ⟨newest, last, hnewest, hlast, hne⟩
  have hmem : newest ∈ mergedKeys base top := by
    obtain ⟨hkey, _⟩ := lastSpelling_eq_some hnewest
    by_cases hbase : base.contains newest = true
    · exact List.mem_append_left _ (OrderedMap.mem_keys_iff.2 hbase)
    · exact List.mem_append_right _ (List.mem_filter.2 ⟨hkey, by simp [hbase]⟩)
  obtain ⟨hlastKey, hlastPath⟩ := lastSpelling_eq_some hlast
  obtain ⟨hnewestKey, hnewestPath⟩ := lastSpelling_eq_some hnewest
  rw [h newest hmem] at hnewestPath
  rw [h last hlastKey] at hlastPath
  cases hnewestPath
  cases hlastPath
  obtain ⟨text, hfind⟩ := OrderedMap.contains_eq_true_iff.1 (OrderedMap.mem_keys_iff.1 hnewestKey)
  exact hne (by simp [hfind])

/-- The merged files hold the newest text of every path exactly when no path is overtaken. -/
theorem latest_overlay_iff (base top : ProjectFiles) :
    (∀ path, SourceTable.latest path (fields (base.overlay top)) =
        (SourceTable.latest path (fields top)).or (SourceTable.latest path (fields base))) ↔
      ∀ path, ¬Overtaken base top path := by
  have hkeys : (base.overlay top).keys = mergedKeys base top := OrderedMap.keys_overlay base top
  refine forall_congr' fun path => ?_
  rw [latest_fields, latest_fields, latest_fields, hkeys]
  cases hnewest : lastSpelling path top.keys with
  | none =>
      -- The request does not spell the path, so that the project's own last spelling stays last.
      have hnone := lastSpelling_eq_none_iff.1 hnewest
      have hlast : lastSpelling path (mergedKeys base top) = lastSpelling path base.keys := by
        have hfilter : lastSpelling path (top.keys.filter fun key => !base.contains key) = none :=
          lastSpelling_eq_none_iff.2 fun key hkey => hnone key ((List.mem_filter.1 hkey).1)
        rw [mergedKeys, lastSpelling_append, hfilter, Option.none_or]
      refine ⟨fun _ ⟨_, _, hsome, _⟩ => by simp [hnewest] at hsome, fun _ => ?_⟩
      rw [hlast, Option.bind_none, Option.none_or]
      refine Option.bind_congr fun last hsome => ?_
      have habsent : top.find? last = none := by
        refine Option.not_isSome_iff_eq_none.1 fun hfind => ?_
        exact hnone last (OrderedMap.mem_keys_iff.2 hfind) (lastSpelling_eq_some hsome).2
      rw [OrderedMap.find?_overlay, habsent, Option.none_or]
  | some newest =>
      obtain ⟨hkey, hpath⟩ := lastSpelling_eq_some hnewest
      obtain ⟨text, hfind⟩ := OrderedMap.contains_eq_true_iff.1 (OrderedMap.mem_keys_iff.1 hkey)
      have hmerged : newest ∈ mergedKeys base top := by
        rw [← hkeys, OrderedMap.mem_keys_iff, OrderedMap.contains, OrderedMap.find?_overlay, hfind]
        rfl
      obtain ⟨last, hlast⟩ : ∃ last, lastSpelling path (mergedKeys base top) = some last := by
        rw [← Option.isSome_iff_exists, Option.isSome_iff_ne_none]
        exact fun hnone => lastSpelling_eq_none_iff.1 hnone newest hmerged hpath
      rw [hlast, Option.bind_some, Option.bind_some, hfind, Option.some_or,
        OrderedMap.find?_overlay]
      constructor
      · rintro heq ⟨newest', last', hnewest', hlast', hne⟩
        rw [hnewest] at hnewest'
        rw [hlast] at hlast'
        cases hnewest'
        cases hlast'
        exact hne (heq.trans hfind.symm)
      · intro hnot
        refine Decidable.byContradiction fun hne => ?_
        exact hnot ⟨newest, last, hnewest, hlast, hfind ▸ hne⟩

end ProjectFiles

namespace Resolution

open ProjectFiles (lastSpelling mergedKeys Overtaken)

/-- A request that only edits files leaves the merged files. -/
theorem files_ofRequest {request : Request} {previous : Document} {top : ProjectFiles}
    (hfiles : request.files = some top) (hreuse : request.usePreviousProject = true)
    (hmode : request.updateMode = .merge) (hkeep : request.deleteFiles = []) :
    (ofRequest request (some previous)).draft.files = some (previous.files.overlay top) := by
  simp [ofRequest, laidFiles, hfiles, hreuse, hmode, hkeep, ProjectFiles.delete,
    ProjectFiles.deleteKeys]

/-- The compiler sees for every path the text under the spelling that stands last in the merged files.
It sees the files of the project before, overlaid by those of the request, exactly when the request
leaves no path overtaken. -/
theorem merged_eq_overlay_iff {request : Request} {previous : Document} {top : ProjectFiles}
    (hfiles : request.files = some top) (hreuse : request.usePreviousProject = true)
    (hmode : request.updateMode = .merge) (hkeep : request.deleteFiles = [])
    (hprevious : ∀ key ∈ previous.files.keys, (Path.canonical? key).isSome)
    (htop : ∀ key ∈ top.keys, (Path.canonical? key).isSome) :
    ∃ merged seen older newer,
      (ofRequest request (some previous)).draft.files = some merged ∧
        SourceTable.ofFields (ProjectFiles.fields merged) = .ok seen ∧
          SourceTable.ofFields (ProjectFiles.fields previous.files) = .ok older ∧
            SourceTable.ofFields (ProjectFiles.fields top) = .ok newer ∧
              (∀ path, seen.find? path =
                ((lastSpelling path (mergedKeys previous.files top)).bind merged.find?).map
                  .ofString) ∧
              ((∀ path, seen.find? path = (older.overlay newer).find? path) ↔
                ∀ path, ¬Overtaken previous.files top path) := by
  rw [← ProjectFiles.enterable_fields_iff] at hprevious htop
  obtain ⟨older, holder⟩ := SourceTable.isOk_ofFields_iff.2 hprevious
  obtain ⟨newer, hnewer⟩ := SourceTable.isOk_ofFields_iff.2 htop
  obtain ⟨seen, hseen⟩ :=
    SourceTable.isOk_ofFields_iff.2 (ProjectFiles.enterable_overlay hprevious htop)
  refine ⟨_, seen, older, newer, files_ofRequest hfiles hreuse hmode hkeep, hseen, holder, hnewer,
    fun path => ?_, ?_⟩
  · rw [SourceTable.find?_ofFields hseen, ProjectFiles.latest_fields, OrderedMap.keys_overlay]
    rfl
  · rw [← ProjectFiles.latest_overlay_iff]
    refine forall_congr' fun path => ?_
    rw [OrderedMap.find?_overlay, SourceTable.find?_ofFields hseen,
      SourceTable.find?_ofFields holder, SourceTable.find?_ofFields hnewer, ← Option.map_or]
    exact (Option.map_injective PointText.ofString_injective).eq_iff

/-- A request that edits one file and keeps everything else. -/
def editOf (path source : String) : Request where
  title := none
  compositionId := none
  width := none
  height := none
  fps := none
  durationInFrames := none
  entryFile := none
  files := some (OrderedMap.ofList [(path, source)])
  defaultProps := none
  inputProps := none
  usePreviousProject := true
  updateMode := .merge
  deleteFiles := []
  resetProject := false

/-- A project with one file. -/
def singleFile (path source : String) : Document :=
  ⟨Meta.standard, standardEntryFile, OrderedMap.ofList [(path, source)], [], []⟩

/-- An edit of a file that the project spells in the same way. -/
theorem merged_editOf :
    ∃ merged seen older newer,
      (ofRequest (editOf "/src/V.tsx" "B") (some (singleFile "/src/V.tsx" "A"))).draft.files =
          some merged ∧
        SourceTable.ofFields (ProjectFiles.fields merged) = .ok seen ∧
          SourceTable.ofFields (ProjectFiles.fields (singleFile "/src/V.tsx" "A").files) = .ok older ∧
            SourceTable.ofFields (ProjectFiles.fields (OrderedMap.ofList [("/src/V.tsx", "B")])) =
                .ok newer ∧
              (∀ path, seen.find? path =
                ((lastSpelling path (mergedKeys (singleFile "/src/V.tsx" "A").files
                  (OrderedMap.ofList [("/src/V.tsx", "B")]))).bind merged.find?).map .ofString) ∧
              ((∀ path, seen.find? path = (older.overlay newer).find? path) ↔
                ∀ path, ¬Overtaken (singleFile "/src/V.tsx" "A").files
                  (OrderedMap.ofList [("/src/V.tsx", "B")]) path) :=
  merged_eq_overlay_iff rfl rfl rfl rfl (by decide +kernel) (by decide +kernel)

/-- A project in which two edits have spelled one path in two ways. -/
def twiceSpelled : Document :=
  ⟨Meta.standard, standardEntryFile,
    OrderedMap.ofList [("/src/V.tsx", "A"), ("src/V.tsx", "B")], [], []⟩

/-- A third edit under the first spelling is lost: the compiler still sees the second one. -/
theorem edit_overtaken :
    ∃ merged seen older newer,
      (ofRequest (editOf "/src/V.tsx" "C") (some twiceSpelled)).draft.files = some merged ∧
        SourceTable.ofFields (ProjectFiles.fields merged) = .ok seen ∧
          SourceTable.ofFields (ProjectFiles.fields twiceSpelled.files) = .ok older ∧
            SourceTable.ofFields (ProjectFiles.fields (OrderedMap.ofList [("/src/V.tsx", "C")])) =
                .ok newer ∧
              (older.overlay newer).find? "/src/V.tsx" = some (.ofString "C") ∧
                seen.find? "/src/V.tsx" = some (.ofString "B") := by
  have henter : ∀ files : ProjectFiles, (∀ key ∈ files.keys, (Path.canonical? key).isSome) →
      ∃ table, SourceTable.ofFields (ProjectFiles.fields files) = .ok table := fun files hkeys =>
    SourceTable.isOk_ofFields_iff.2 (ProjectFiles.enterable_fields_iff.2 hkeys)
  obtain ⟨older, holder⟩ := henter twiceSpelled.files (by decide +kernel)
  obtain ⟨newer, hnewer⟩ := henter (OrderedMap.ofList [("/src/V.tsx", "C")]) (by decide +kernel)
  obtain ⟨seen, hseen⟩ := henter
    (twiceSpelled.files.overlay (OrderedMap.ofList [("/src/V.tsx", "C")])) (by decide +kernel)
  refine ⟨_, seen, older, newer, rfl, hseen, holder, hnewer, ?_, ?_⟩
  · rw [OrderedMap.find?_overlay, SourceTable.find?_ofFields hnewer,
      SourceTable.find?_ofFields holder]
    decide +kernel
  · rw [SourceTable.find?_ofFields hseen]
    decide +kernel

end Resolution
end VideoBundle
