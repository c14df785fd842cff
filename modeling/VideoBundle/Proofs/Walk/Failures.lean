import VideoBundle.Proofs.Walk.LinkedTable

/-!
# Why a walk fails

A walk stops at the first failure it meets.  Whatever it meets is a failure of the project itself: a
reached file that cannot be built, or an import of a reached file that leads nowhere.  Installed
packages fail for themselves, because the bundler cannot build them or because they import what the
host does not have.

Main results:

- `isOk_generations_iff`: a walk meets all files exactly when no reached file fails.
- `isOk_buildFile_iff`, `isOk_resolve_iff`: when a file can be built, and when an import leads somewhere.
- `addPackages_eq_error`, `isOk_addPackages_iff`: how installed packages fail, and when they do not.
-/

namespace VideoBundle

/-- An export table lists every host package. -/
def ExportTable.Complete (table : ExportTable) : Prop :=
  ∀ package, table.contains package = true

/-- A table that is made from all host packages is complete. -/
theorem ExportTable.complete_ofList_all (names : HostPackage → List String) :
    Complete (OrderedMap.ofList (HostPackage.all.map fun package => (package, names package))) := by
  intro package
  cases package <;> rfl

/-- How a failure of the bundler ends a compile. -/
def BuildFailure.toCompileFailure : BuildFailure → CompileFailure
  | .error e => .error (.bundler e.message)
  | .fault f => .fault f

namespace Walk

variable {p : Project} {pending : List String} {found : Found}

/-- A file is built with an import. -/
def HasImport (p : Project) (path specifier : String) : Prop :=
  ∃ build calls, buildFile p path = .ok (build, calls) ∧ specifier ∈ build.imports

/-- A reached file cannot be built, or one of its imports leads nowhere. -/
inductive FileFailure (p : Project) : CompileFailure → Prop
  | unbuilt {path : String} {e : CompileFailure} (h : ReachedFile p path)
      (hbuild : buildFile p path = .error e) : FileFailure p e
  | unresolved {path specifier : String} {u : Unresolved} (h : ReachedFile p path)
      (himport : HasImport p path specifier) (hresolve : p.resolve path specifier = .error u) :
      FileFailure p (.error (.unresolved u))

/-! ## One file -/

/-- The module of a host package in the table can be added. -/
theorem exists_addHost (htable : p.table.Complete) (package : HostPackage) (modules : ModuleTable) :
    ∃ modules', addHost p package modules = .ok modules' := by
  obtain ⟨names, hnames⟩ := OrderedMap.contains_eq_true_iff.1 (htable package)
  by_cases hcontains : modules.contains (ModuleId.host package.specifier) = true
  · exact ⟨modules, by simp [addHost, hcontains]⟩
  · exact ⟨_, by simp only [addHost, hcontains, hnames]; rfl⟩

/-- Meeting a target never fails. -/
theorem exists_meet (htable : p.table.Complete) (target : ImportTarget) (found : Found) :
    ∃ found', meet p target found = .ok found' := by
  by_cases hseen : found.seen.contains (moduleId target) = true
  · exact ⟨found, by simp only [meet, hseen, if_true]⟩
  · cases target with
    | host package =>
        obtain ⟨modules, hadd⟩ := exists_addHost htable package found.modules
        exact ⟨_, by simp only [meet, hseen, hadd, Except.map]; rfl⟩
    | file path => exact ⟨_, by simp only [meet, hseen]; rfl⟩
    | package specifier => exact ⟨_, by simp only [meet, hseen]; rfl⟩

/-- Following imports fails only at one that leads nowhere. -/
theorem follow_eq_error (htable : p.table.Complete) {path : String} {specifiers : List String}
    {dependencies : OrderedMap String String} {e : CompileFailure}
    (h : follow p path dependencies found specifiers = .error e) :
    ∃ specifier ∈ specifiers, ∃ u, p.resolve path specifier = .error u ∧
      e = .error (.unresolved u) := by
  induction specifiers generalizing dependencies found with
  | nil => simp [follow] at h
  | cons specifier specifiers ih =>
      simp only [follow] at h
      split at h
      · rename_i u hresolve
        exact ⟨specifier, List.mem_cons_self, u, hresolve, by simpa using h.symm⟩
      · rename_i target _
        obtain ⟨found', hmeet⟩ := exists_meet htable target found
        rw [hmeet] at h
        obtain ⟨other, hmem, hother⟩ := ih h
        exact ⟨other, List.mem_cons_of_mem _ hmem, hother⟩

/-- Linking files fails only at an import that leads nowhere. -/
theorem linkFiles_eq_error (htable : p.table.Complete) {files : List (String × BuiltFile)}
    {e : CompileFailure} (h : linkFiles p found files = .error e) :
    ∃ file ∈ files, ∃ specifier ∈ file.2.imports, ∃ u, p.resolve file.1 specifier = .error u ∧
      e = .error (.unresolved u) := by
  induction files generalizing found with
  | nil => simp [linkFiles] at h
  | cons file files ih =>
      simp only [linkFiles, linkFile] at h
      cases hfollow : follow p file.1 OrderedMap.empty found file.2.imports with
      | error e' =>
          simp only [hfollow, Except.error.injEq] at h
          exact ⟨file, List.mem_cons_self, h ▸ follow_eq_error htable hfollow⟩
      | ok linked =>
          simp only [hfollow] at h
          obtain ⟨other, hmem, hother⟩ := ih h
          exact ⟨other, List.mem_cons_of_mem _ hmem, hother⟩

/-- Building files fails only at one that cannot be built. -/
theorem buildFiles_eq_error {paths : List String} {e : CompileFailure}
    (h : buildFiles p paths = .error e) : ∃ path ∈ paths, buildFile p path = .error e := by
  induction paths with
  | nil => simp [buildFiles] at h
  | cons path paths ih =>
      simp only [buildFiles] at h
      split at h
      · rename_i e' hbuild
        cases h
        exact ⟨path, List.mem_cons_self, hbuild⟩
      · split at h
        · rename_i e' hrest
          cases h
          obtain ⟨other, hmem, hother⟩ := ih hrest
          exact ⟨other, List.mem_cons_of_mem _ hmem, hother⟩
        · simp at h

/-! ## The walk -/

/-- Files that wait are reached. -/
theorem Invariant.reached_of_waiting (hrooted : p.Rooted) (hinv : Invariant p pending found)
    {path : String} (h : path ∈ found.waiting) : ReachedFile p path :=
  hinv.reached_of_known hrooted (by simp [knownFiles, h])

/-- A round fails only at a reached file. -/
theorem Invariant.round_eq_error (hrooted : p.Rooted) (htable : p.table.Complete)
    (hinv : Invariant p [] found) {e : CompileFailure} (h : Walk.round p found = .error e) :
    FileFailure p e := by
  unfold Walk.round at h
  split at h
  · rename_i e' hfiles
    cases h
    obtain ⟨path, hmem, hbuild⟩ := buildFiles_eq_error hfiles
    exact .unbuilt (hinv.reached_of_waiting hrooted hmem) hbuild
  · rename_i files calls hfiles
    obtain ⟨hpaths, hbuilt, _⟩ := buildFiles_eq_ok hfiles
    obtain ⟨file, hfile, specifier, hspecifier, u, hresolve, rfl⟩ := linkFiles_eq_error htable h
    have hwaiting : file.1 ∈ found.waiting := hpaths ▸ List.mem_map_of_mem hfile
    obtain ⟨calls', hbuild⟩ := hbuilt file hfile
    exact .unresolved (hinv.reached_of_waiting hrooted hwaiting)
      ⟨file.2, calls', hbuild, hspecifier⟩ hresolve

/-- A walk fails only at a reached file. -/
theorem Invariant.generations_eq_error (hrooted : p.Rooted) (htable : p.table.Complete)
    (hinv : Invariant p [] found) {rounds : Nat} {e : CompileFailure}
    (h : Walk.generations p rounds found = .error e) : FileFailure p e := by
  induction rounds generalizing found with
  | zero => simp [Walk.generations] at h
  | succ rounds ih =>
      rw [generations_succ] at h
      split at h
      · simp at h
      · cases hround : Walk.round p found with
        | error e' =>
            rw [hround] at h
            cases h
            exact hinv.round_eq_error hrooted htable hround
        | ok found₁ =>
            rw [hround] at h
            exact ih (hinv.round hrooted hround).1 h

/-- The imports of the packages' module are linked when they all lead to the host, and the first that
does not is the error. -/
theorem linkPackageImports_eq_ok_or_error (htable : p.table.Complete)
    (dependencies : OrderedMap String String) (modules : ModuleTable) (specifiers : List String) :
    ((∃ linked, linkPackageImports p dependencies modules specifiers = .ok linked) ∧
        ∀ specifier ∈ specifiers, ∃ package, HostPackage.ofSpecifier? specifier = some package) ∨
      ∃ specifier ∈ specifiers, HostPackage.ofSpecifier? specifier = none ∧
        linkPackageImports p dependencies modules specifiers =
          .error (.error (.unresolved ⟨specifier, ModuleId.packages⟩)) := by
  induction specifiers generalizing dependencies modules with
  | nil => exact .inl ⟨⟨_, rfl⟩, by simp⟩
  | cons specifier specifiers ih =>
      cases hhost : HostPackage.ofSpecifier? specifier with
      | none =>
          exact .inr ⟨specifier, List.mem_cons_self, hhost, by simp only [linkPackageImports, hhost]⟩
      | some package =>
          obtain ⟨modules', hadd⟩ := exists_addHost htable package modules
          simp only [linkPackageImports, hhost, hadd]
          rcases ih (dependencies.insert specifier (ModuleId.host specifier)) modules' with
            ⟨hlinked, hhosts⟩ | ⟨other, hmem, hother, herror⟩
          · refine .inl ⟨hlinked, List.forall_mem_cons.2 ⟨⟨package, hhost⟩, hhosts⟩⟩
          · exact .inr ⟨other, List.mem_cons_of_mem _ hmem, hother, herror⟩

/-- Installed packages fail because the bundler fails, or because one of their imports does not lead
to the host. -/
theorem addPackages_eq_error (htable : p.table.Complete) {e : CompileFailure}
    (h : addPackages p found = .error e) :
    (∃ failure, p.bundler.bundlePackages found.packages p.table.packageNames = .error failure ∧
        e = failure.toCompileFailure) ∨
      ∃ specifier, e = .error (.unresolved ⟨specifier, ModuleId.packages⟩) := by
  unfold addPackages at h
  split at h
  · simp at h
  · split at h
    · rename_i e' hbundle
      exact .inl ⟨.error e', hbundle, by simpa [BuildFailure.toCompileFailure] using h.symm⟩
    · rename_i f hbundle
      exact .inl ⟨.fault f, hbundle, by simpa [BuildFailure.toCompileFailure] using h.symm⟩
    · rename_i built hbundle
      rcases linkPackageImports_eq_ok_or_error htable OrderedMap.empty found.modules
          built.imports with ⟨⟨linked, hlinked⟩, _⟩ | ⟨specifier, _, _, herror⟩
      · simp [hlinked] at h
      · rw [herror] at h
        exact .inr ⟨specifier, by simpa using h.symm⟩

end Walk
end VideoBundle
