import VideoBundle.Proofs.Walk.Failures

/-!
# Walks of a slice

A slice of a project keeps the files that the entry file reaches, and perhaps others, but brings no
file that is new.  An import of a reached file then hits the same candidate as before: the one that is
hit is reached, and those that are tried before it are still missing.  Two walks, one of the project
and one of a slice, therefore do the same in every step, and they fail in the same way.

Main results:

- `Slice.buildFile`, `Slice.resolve`: reached files are built and their imports resolved as before.
- `Slice.round`: a round of a walk is the same.
- `Slice.run`: a slice has the modules of the project, or the same failure.
-/

namespace VideoBundle

namespace Specifier

variable {isFile isKept : String → Bool}

/-- The first hit in a list stays the first when only other items are no longer hit. -/
theorem find?_of_kept {paths : List String} (hold : ∀ path, isKept path = true → isFile path = true)
    (hhit : ∀ path, paths.find? isFile = some path → isKept path = true) :
    paths.find? isKept = paths.find? isFile := by
  induction paths with
  | nil => rfl
  | cons path paths ih =>
      cases hfile : isFile path with
      | true =>
          have hkept : isKept path = true := hhit path (List.find?_cons_of_pos hfile)
          rw [List.find?_cons_of_pos hfile, List.find?_cons_of_pos hkept]
      | false =>
          have hnot : ¬isFile path = true := by simp [hfile]
          have hgone : ¬isKept path = true := fun hkept => hnot (hold path hkept)
          rw [List.find?_cons_of_neg hnot] at hhit
          rw [List.find?_cons_of_neg hnot, List.find?_cons_of_neg hgone, ih hhit]

/-- A path specifier hits the same file when that one is kept and no file is new. -/
theorem locate_of_kept {specifier importer : String}
    (hold : ∀ path, isKept path = true → isFile path = true)
    (hhit : ∀ path, locate isFile specifier importer = some path → isKept path = true) :
    locate isKept specifier importer = locate isFile specifier importer := by
  unfold locate at hhit ⊢
  cases hbase : base? specifier importer with
  | none => rfl
  | some base =>
      rw [hbase] at hhit
      exact find?_of_kept hold hhit

/-- An import leads to the same target when the file that it hits is kept and no file is new. -/
theorem resolve_of_kept {specifier : String} {importer entry : Option String}
    (hold : ∀ path, isKept path = true → isFile path = true)
    (hhit : ∀ path, resolve isFile specifier importer entry = .ok (.file path) →
      isKept path = true) :
    resolve isKept specifier importer entry = resolve isFile specifier importer entry := by
  unfold resolve at hhit ⊢
  cases hhost : HostPackage.ofSpecifier? specifier with
  | some package => rfl
  | none =>
      by_cases hpath : isPath specifier = true
      · simp only [hhost, hpath, if_true] at hhit ⊢
        have hlocate : locate isKept specifier (importingFile importer entry) =
            locate isFile specifier (importingFile importer entry) := by
          refine locate_of_kept hold fun path hfound => hhit path ?_
          rw [hfound]
        rw [hlocate]
      · simp [hpath]

end Specifier

namespace Walk

variable {p : Project} {sources : SourceTable} {pending : List String} {found : Found}

/-- A project with other sources. -/
def Project.withSources (p : Project) (sources : SourceTable) : Project :=
  ⟨sources, p.entry, p.bundler, p.table⟩

/-- Sources in which every reached file of a project is as it was, and no file is new. -/
structure Slice (p : Project) (sources : SourceTable) : Prop where
  reached : ∀ path, ReachedFile p path → sources.find? path = p.sources.find? path
  old : ∀ path, sources.contains path = true → p.sources.contains path = true

namespace Slice

/-- The slice holds every file that is reached. -/
theorem contains (h : Slice p sources) (hrooted : p.Rooted) {path : String}
    (hreached : ReachedFile p path) : sources.contains path = true := by
  rw [OrderedMap.contains, h.reached path hreached]
  exact hreached.contains hrooted

theorem rooted (h : Slice p sources) (hrooted : p.Rooted) : (p.withSources sources).Rooted :=
  ⟨fun path hpath => hrooted.absolute path (h.old path hpath), h.contains hrooted .entry⟩

/-- Reached files are built as before. -/
theorem buildFile (h : Slice p sources) {path : String} (hreached : ReachedFile p path) :
    Walk.buildFile (p.withSources sources) path = Walk.buildFile p path := by
  unfold Walk.buildFile
  rw [Project.withSources, h.reached path hreached]

/-- The imports of reached files lead where they led before. -/
theorem resolve (h : Slice p sources) (hrooted : p.Rooted) {path specifier : String}
    (hreached : ReachedFile p path) (himport : HasImport p path specifier) :
    (p.withSources sources).resolve path specifier = p.resolve path specifier := by
  refine Specifier.resolve_of_kept h.old fun target htarget => ?_
  obtain ⟨build, calls, hbuild, hmem⟩ := himport
  exact h.contains hrooted (.step hreached ⟨build, calls, hbuild, hmem, htarget⟩)

/-- Files that are reached are built alike from the slice. -/
theorem buildFiles (h : Slice p sources) {paths : List String}
    (hreached : ∀ path ∈ paths, ReachedFile p path) :
    Walk.buildFiles (p.withSources sources) paths = Walk.buildFiles p paths := by
  induction paths with
  | nil => rfl
  | cons path paths ih =>
      have hpath := h.buildFile (hreached path List.mem_cons_self)
      have hpaths := ih fun other hother => hreached other (List.mem_cons_of_mem _ hother)
      simp only [Walk.buildFiles, hpath, hpaths]

/-- The imports of a file that is reached are followed alike. -/
theorem follow (h : Slice p sources) (hrooted : p.Rooted) {path : String} {specifiers : List String}
    (hreached : ReachedFile p path)
    (himports : ∀ specifier ∈ specifiers, HasImport p path specifier)
    (dependencies : OrderedMap String String) (found : Found) :
    Walk.follow (p.withSources sources) path dependencies found specifiers =
      Walk.follow p path dependencies found specifiers := by
  induction specifiers generalizing dependencies found with
  | nil => rfl
  | cons specifier specifiers ih =>
      have hresolve := h.resolve hrooted hreached (himports specifier List.mem_cons_self)
      -- Meeting a target reads the export table, never the sources.
      have hmeet : ∀ target, Walk.meet (p.withSources sources) target found =
          Walk.meet p target found := fun _ => rfl
      have hrest := ih fun other hother => himports other (List.mem_cons_of_mem _ hother)
      unfold Project.resolve at hresolve
      simp only [Walk.follow, hresolve, hmeet, hrest]

/-- Files that are reached are linked alike. -/
theorem linkFiles (h : Slice p sources) (hrooted : p.Rooted) {files : List (String × BuiltFile)}
    (hreached : ∀ file ∈ files, ReachedFile p file.1)
    (hbuilt : ∀ file ∈ files, ∃ calls, Walk.buildFile p file.1 = .ok (file.2, calls))
    (found : Found) :
    Walk.linkFiles (p.withSources sources) found files = Walk.linkFiles p found files := by
  induction files generalizing found with
  | nil => rfl
  | cons file files ih =>
      obtain ⟨calls, hbuild⟩ := hbuilt file List.mem_cons_self
      have hfollow := h.follow hrooted (hreached file List.mem_cons_self)
        (fun specifier hmem => ⟨file.2, calls, hbuild, hmem⟩) OrderedMap.empty found
      have hrest := ih (fun other hother => hreached other (List.mem_cons_of_mem _ hother))
        fun other hother => hbuilt other (List.mem_cons_of_mem _ hother)
      simp only [Walk.linkFiles, Walk.linkFile, hfollow, hrest]

/-- A round of a walk is the same in a slice. -/
theorem round (h : Slice p sources) (hrooted : p.Rooted) (hinv : Invariant p [] found) :
    Walk.round (p.withSources sources) found = Walk.round p found := by
  have hwaiting : ∀ path ∈ found.waiting, ReachedFile p path := fun path hpath =>
    hinv.reached_of_waiting hrooted hpath
  unfold Walk.round
  rw [h.buildFiles hwaiting]
  cases hfiles : Walk.buildFiles p found.waiting with
  | error e => rfl
  | ok built =>
      obtain ⟨files, calls⟩ := built
      obtain ⟨hpaths, hbuilt, _⟩ := buildFiles_eq_ok hfiles
      have hreached : ∀ file ∈ files, ReachedFile p file.1 := fun file hfile =>
        hwaiting file.1 (hpaths ▸ List.mem_map_of_mem hfile)
      exact h.linkFiles hrooted hreached hbuilt _

theorem generations (h : Slice p sources) (hrooted : p.Rooted) (hinv : Invariant p [] found)
    (rounds : Nat) :
    Walk.generations (p.withSources sources) rounds found = Walk.generations p rounds found := by
  induction rounds generalizing found with
  | zero => rfl
  | succ rounds ih =>
      rw [generations_succ, generations_succ, h.round hrooted hinv]
      cases hround : Walk.round p found with
      | error e => rfl
      | ok found₁ => simp only [Except.bind, ih (hinv.round hrooted hround).1]

/-- Imports of the package bundle do not read the files at all. -/
theorem linkPackageImports (dependencies : OrderedMap String String) (modules : ModuleTable)
    (specifiers : List String) :
    Walk.linkPackageImports (p.withSources sources) dependencies modules specifiers =
      Walk.linkPackageImports p dependencies modules specifiers := by
  induction specifiers generalizing dependencies modules with
  | nil => rfl
  | cons specifier specifiers ih =>
      have hadd : ∀ package, Walk.addHost (p.withSources sources) package modules =
          Walk.addHost p package modules := fun _ => rfl
      simp only [Walk.linkPackageImports, hadd, ih]

theorem addPackages (found : Found) :
    Walk.addPackages (p.withSources sources) found = Walk.addPackages p found := by
  unfold Walk.addPackages
  simp only [linkPackageImports]
  rfl

/-- A slice has the modules of the project, found with the same requests, or the same failure. -/
theorem run (h : Slice p sources) (hrooted : p.Rooted) :
    Walk.run (p.withSources sources) = Walk.run p := by
  have hwalk : Walk.generations (p.withSources sources) (sources.size + 1)
        (Walk.start (p.withSources sources)) =
      Walk.generations p (p.sources.size + 1) (Walk.start p) := by
    -- The slice has fewer files, and so fewer rounds: both walks first get the same larger number.
    have hslice : Invariant (p.withSources sources) [] (Walk.start p) := .start (h.rooted hrooted)
    have hproject : Invariant p [] (Walk.start p) := .start hrooted
    calc
      Walk.generations (p.withSources sources) (sources.size + 1) (Walk.start p)
          = Walk.generations (p.withSources sources) (sources.size + p.sources.size + 1)
              (Walk.start p) :=
            hslice.generations_rounds (h.rooted hrooted)
              (Nat.lt_add_right _ (Nat.lt_succ_self _))
              (Nat.lt_add_right _ (by simp only [Project.withSources]; omega))
      _ = Walk.generations p (sources.size + p.sources.size + 1) (Walk.start p) :=
            h.generations hrooted hproject _
      _ = Walk.generations p (p.sources.size + 1) (Walk.start p) :=
            hproject.generations_rounds hrooted (by omega) (by omega)
  unfold Walk.run
  have hsize : (p.withSources sources).sources.size = sources.size := rfl
  rw [hsize, hwalk]
  simp only [addPackages]

end Slice

end Walk
end VideoBundle
