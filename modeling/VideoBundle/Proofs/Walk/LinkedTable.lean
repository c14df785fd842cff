import Mathlib.Logic.Relation
import VideoBundle.Compile.Basic
import VideoBundle.Proofs.SourceTable
import VideoBundle.Proofs.Walk.Generations
import VideoBundle.Proofs.Walk.Packages

/-!
# The modules of a bundle

A bundle is written from a table of modules.  The table is closed under the dependencies of its
modules, and it holds no module that the entry module does not reach.  Its file modules are the
reached files of the project.

Main results:

- `run_linkedTable`: what holds of the modules that a walk finds, and of its requests.
- `bundle_eq_link`: a bundle is written from such modules.
-/

namespace VideoBundle

/-- The path of the source file that a request sends. -/
def BundlerCall.path? : BundlerCall → Option String
  | .file _ _ path => some path
  | .packages _ _ => none

/-- The packages that a request sends, with the imports to leave outside. -/
def BundlerCall.packages? : BundlerCall → Option (List String × List String)
  | .file _ _ _ => none
  | .packages specifiers externals => some (specifiers, externals)

namespace Walk

variable {p : Project}

/-- An installed package is imported by a reached file. -/
def PackageImported (p : Project) (name : String) : Prop :=
  ∃ path specifier, ReachedFile p path ∧ Imports p path specifier (.package name)

/-- The modules of a project are closed, without superfluous modules, and built with the fewest
requests. -/
structure LinkedTable (p : Project) (graph : ModuleGraph) (calls : List BundlerCall) : Prop where
  /-- Every module is kept under its own identifier. -/
  named : Named graph.modules
  /-- The entry module depends on the entry file. -/
  entry : ∃ m, graph.modules.find? ModuleId.entry = some m ∧
    m.dependencies.entries = [(p.entry, p.entry)]
  /-- Every dependency leads to a module. -/
  closed : ∀ id target, DependsOn graph.modules id target → graph.modules.contains target = true
  /-- Every import of a built file is a dependency of its module. -/
  imports : ∀ path build, graph.builds.find? path = some build →
    (∃ calls, buildFile p path = .ok (build, calls)) ∧
      ∃ m, graph.modules.find? path = some m ∧
        ∀ specifier ∈ build.imports, m.dependencies.contains specifier = true
  /-- The entry module reaches every module. -/
  reachable : ∀ id, graph.modules.contains id = true →
    Relation.ReflTransGen (DependsOn graph.modules) ModuleId.entry id
  /-- The modules of files are the reached files. -/
  files : ∀ path, graph.modules.contains path = true ∧ Specifier.isAbsolute path = true ↔
    ReachedFile p path
  /-- The built files are the reached files. -/
  builds : ∀ path, graph.builds.contains path = true ↔ ReachedFile p path
  /-- No file is sent to the bundler twice. -/
  sentOnce : (calls.filterMap BundlerCall.path?).Nodup
  /-- The bundler gets the reached source files, each with its text and loader. -/
  sent : ∀ source loader path, .file source loader path ∈ calls ↔
    ReachedFile p path ∧ (p.sources.find? path).map PointText.toText = some source ∧
      loader = Path.loader path ∧ loader.isSource = true
  /-- The bundler gets all imported packages at once, and no request if there are none. -/
  packages : (calls.filterMap BundlerCall.packages? = [] ∧ ∀ name, ¬PackageImported p name) ∨
    ∃ names, calls.filterMap BundlerCall.packages? = [(names, p.table.packageNames)] ∧
      names ≠ [] ∧ names.Nodup ∧ ∀ name, name ∈ names ↔ PackageImported p name

/-! ## Requests -/

/-- A file is sent to the bundler exactly if it is a source that exists, and then with its text
and loader. -/
theorem fileCall_eq_some_iff {path : String} {call : BundlerCall} :
    fileCall p path = some call ↔ (Path.loader path).isSource = true ∧
      ∃ source, (p.sources.find? path).map PointText.toText = some source ∧
        .file source (Path.loader path) path = call := by
  simp [fileCall]

/-- The file calls are those of the sources among the files. -/
theorem mem_filterMap_fileCall {files : List String} {source path : String} {loader : Loader} :
    .file source loader path ∈ files.filterMap (fileCall p) ↔
      path ∈ files ∧ (p.sources.find? path).map PointText.toText = some source ∧
        loader = Path.loader path ∧ loader.isSource = true := by
  simp only [List.mem_filterMap, fileCall_eq_some_iff, BundlerCall.file.injEq]
  constructor
  · rintro ⟨_, hmem, hsource, _, hfind, rfl, rfl, rfl⟩
    exact ⟨hmem, hfind, rfl, hsource⟩
  · rintro ⟨hmem, hfind, rfl, hsource⟩
    exact ⟨path, hmem, hsource, source, hfind, rfl, rfl, rfl⟩

/-- The paths that are sent to the bundler are taken from the built files in order. -/
theorem paths_of_fileCall_sublist (files : List String) :
    ((files.filterMap (fileCall p)).filterMap BundlerCall.path?).Sublist files := by
  induction files with
  | nil => exact List.Sublist.refl _
  | cons file files ih =>
      cases hcall : fileCall p file with
      | none =>
          rw [List.filterMap_cons_none hcall]
          exact ih.cons file
      | some call =>
          obtain ⟨_, source, _, rfl⟩ := fileCall_eq_some_iff.1 hcall
          rw [List.filterMap_cons_some hcall]
          exact ih.cons_cons file

/-- A file call bundles no packages. -/
theorem packages_of_fileCall (files : List String) :
    (files.filterMap (fileCall p)).filterMap BundlerCall.packages? = [] := by
  rw [List.filterMap_eq_nil_iff]
  intro call hcall
  obtain ⟨file, _, hfile⟩ := List.mem_filterMap.1 hcall
  obtain ⟨_, source, _, rfl⟩ := fileCall_eq_some_iff.1 hfile
  rfl

/-! ## The end of a walk -/

section Finished

variable {found : Found} {graph : ModuleGraph} {calls : List BundlerCall}

/-- A package that is met is imported. -/
theorem Met.packageImported {name : String} (hrooted : p.Rooted)
    (h : Met p (ModuleId.package name)) : PackageImported p name := by
  generalize hid : ModuleId.package name = id at h
  cases h with
  | entryModule => exact absurd hid (ModuleId.package_ne_entry name)
  | entryFile =>
      have habsolute := hrooted.absolute p.entry hrooted.entry
      exact absurd hid (ModuleId.package_ne_of_absolute habsolute name)
  | @target path specifier target hpath himport =>
      cases target with
      | host package => exact absurd hid.symm (ModuleId.host_ne_package _ _)
      | file target =>
          obtain ⟨_, _, _, _, hresolve⟩ := himport
          have habsolute := hrooted.absolute target (contains_of_resolve hresolve)
          exact absurd hid (ModuleId.package_ne_of_absolute habsolute name)
      | package other =>
          obtain rfl := ModuleId.package_injective hid
          exact ⟨path, specifier, hpath, himport⟩

/-- At the end of the walk the known files are those that were built. -/
theorem mem_known_iff (hdone : found.waiting = []) {path : String} :
    path ∈ knownFiles [] found ↔ found.builds.contains path = true := by
  simp [knownFiles, hdone, OrderedMap.mem_keys_iff]

/-- An identifier that was met has a module in the finished graph. -/
theorem Finished.contains (h : Finished found graph) (hinv : Invariant p [] found)
    (hdone : found.waiting = []) {id : String} (hmem : id ∈ found.seen) :
    graph.modules.contains id = true := by
  have hkept : ∀ id, found.modules.contains id = true → graph.modules.contains id = true := by
    intro id hcontains
    obtain ⟨m, hfind⟩ := OrderedMap.contains_eq_true_iff.1 hcontains
    exact OrderedMap.contains_of_find? (h.kept id m hfind)
  rcases hinv.accounted id hmem with rfl | hfile | ⟨_, _, hhost⟩ | ⟨specifier, hpackage, rfl⟩
  · obtain ⟨m, hfind, _⟩ := hinv.modules.entry
    exact hkept _ (OrderedMap.contains_of_find? hfind)
  · obtain ⟨build, hbuild⟩ := OrderedMap.contains_eq_true_iff.1 ((mem_known_iff hdone).1 hfile)
    obtain ⟨_, m, hfind, _⟩ := hinv.modules.built id build hbuild
    exact hkept _ (OrderedMap.contains_of_find? hfind)
  · exact hkept _ hhost
  · obtain ⟨m, hfind, _⟩ := h.package specifier hpackage
    exact OrderedMap.contains_of_find? hfind

/-- An import of a built file is a link of its module to a target that was met. -/
theorem Invariant.dependsOn (hinv : Invariant p [] found) {path specifier : String}
    {target : ImportTarget} (hbuilt : found.builds.contains path = true)
    (himport : Imports p path specifier target) :
    DependsOn found.modules path (moduleId target) ∧ moduleId target ∈ found.seen := by
  obtain ⟨build, hfind⟩ := OrderedMap.contains_eq_true_iff.1 hbuilt
  obtain ⟨⟨calls, hbuild⟩, m, hmodule, hlinks⟩ := hinv.modules.built path build hfind
  obtain ⟨build', calls', hbuild', hmem, hresolve⟩ := himport
  rw [hbuild] at hbuild'
  cases hbuild'
  obtain ⟨target', hresolve', hlink, hseen⟩ := hlinks.total specifier hmem
  rw [hresolve] at hresolve'
  cases hresolve'
  exact ⟨⟨m, specifier, hmodule, hlink⟩, hseen⟩

/-- At the end of a walk the built files are the reached ones. -/
theorem Invariant.contains_builds_iff (hrooted : p.Rooted) (hinv : Invariant p [] found)
    (hdone : found.waiting = []) (path : String) :
    found.builds.contains path = true ↔ ReachedFile p path := by
  have hmeet : ∀ path, path ∈ found.seen → Specifier.isAbsolute path = true →
      found.builds.contains path = true := by
    intro path hmem habsolute
    exact (mem_known_iff hdone).1 (hinv.mem_known_of_seen habsolute hmem)
  constructor
  · exact fun hbuilt => hinv.reached_of_known hrooted ((mem_known_iff hdone).2 hbuilt)
  · intro hreached
    induction hreached with
    | entry => exact hmeet _ hinv.entry_seen (hrooted.absolute _ hrooted.entry)
    | step hpath himport ih =>
        obtain ⟨_, hseen⟩ := hinv.dependsOn ih himport
        obtain ⟨_, _, _, _, hresolve⟩ := himport
        exact hmeet _ hseen (hrooted.absolute _ (contains_of_resolve hresolve))

/-- The entry module reaches whatever was met. -/
theorem Finished.reaches (h : Finished found graph) (hrooted : p.Rooted)
    (hinv : Invariant p [] found) (hdone : found.waiting = []) {id : String} (hmet : Met p id) :
    Relation.ReflTransGen (DependsOn graph.modules) ModuleId.entry id := by
  have hedge : ∀ {path specifier target}, ReachedFile p path →
      Imports p path specifier target → DependsOn graph.modules path (moduleId target) := by
    intro path specifier target hpath himport
    obtain ⟨⟨m, specifier, hfind, hlink⟩, _⟩ :=
      hinv.dependsOn ((hinv.contains_builds_iff hrooted hdone path).2 hpath) himport
    exact ⟨m, specifier, h.kept path m hfind, hlink⟩
  have hentry : Relation.ReflTransGen (DependsOn graph.modules) ModuleId.entry p.entry := by
    obtain ⟨m, hfind, hentries⟩ := hinv.modules.entry
    refine .single ⟨m, p.entry, h.kept _ m hfind, OrderedMap.mem_entries_iff.1 ?_⟩
    simp [hentries]
  have hfile : ∀ {path}, ReachedFile p path →
      Relation.ReflTransGen (DependsOn graph.modules) ModuleId.entry path := by
    intro path hreached
    induction hreached with
    | entry => exact hentry
    | step hpath himport ih => exact ih.tail (hedge hpath himport)
  cases hmet with
  | entryModule => exact .refl
  | entryFile => exact hentry
  | target hpath himport => exact (hfile hpath).tail (hedge hpath himport)

/-- The dependencies of a finished graph lead to its modules. -/
theorem Finished.closed (h : Finished found graph) (hinv : Invariant p [] found)
    (hdone : found.waiting = []) {id target : String} (hdepends : DependsOn graph.modules id target) :
    graph.modules.contains target = true := by
  obtain ⟨m, specifier, hfind, hlink⟩ := hdepends
  have hmem := OrderedMap.mem_entries_iff.2 hlink
  rcases h.only id m hfind with hfound | ⟨rfl, hpackages⟩ | ⟨name, hname, rfl⟩ | ⟨_, _, _, hempty⟩
  · rcases hinv.modules.kinds id m hfound with rfl | hkeys | ⟨_, _, _, hempty⟩
    · obtain ⟨m', hfind', hentries⟩ := hinv.modules.entry
      rw [hfound] at hfind'
      cases hfind'
      rw [hentries] at hmem
      cases List.mem_singleton.1 hmem
      exact h.contains hinv hdone hinv.entry_seen
    · obtain ⟨build, hbuild⟩ :=
        OrderedMap.contains_eq_true_iff.1 (OrderedMap.mem_keys_iff.1 hkeys)
      obtain ⟨_, m', hfind', hlinks⟩ := hinv.modules.built id build hbuild
      rw [hfound] at hfind'
      cases hfind'
      obtain ⟨target', _, hlink', hseen⟩ :=
        hlinks.total specifier (hlinks.only specifier target hlink)
      rw [hlink] at hlink'
      cases hlink'
      exact h.contains hinv hdone hseen
    · simp [hempty] at hlink
  · obtain ⟨m', hfind', hclosed⟩ := h.packages hpackages
    rw [hfind] at hfind'
    cases hfind'
    exact hclosed specifier target hlink
  · obtain ⟨m', hfind', hdependencies⟩ := h.package name hname
    rw [hfind] at hfind'
    cases hfind'
    rw [hdependencies] at hmem
    cases List.mem_singleton.1 hmem
    obtain ⟨m', hpackages, _⟩ := h.packages (List.ne_nil_of_mem hname)
    exact OrderedMap.contains_of_find? hpackages
  · simp [hempty] at hlink

/-- The entry module reaches every module of a finished graph. -/
theorem Finished.reachable (h : Finished found graph) (hrooted : p.Rooted)
    (hinv : Invariant p [] found) (hdone : found.waiting = []) {id : String}
    (hcontains : graph.modules.contains id = true) :
    Relation.ReflTransGen (DependsOn graph.modules) ModuleId.entry id := by
  have hmet : ∀ {id}, id ∈ found.seen →
      Relation.ReflTransGen (DependsOn graph.modules) ModuleId.entry id :=
    fun hmem => h.reaches hrooted hinv hdone (hinv.met _ hmem)
  have hpackages : found.packages ≠ [] →
      Relation.ReflTransGen (DependsOn graph.modules) ModuleId.entry ModuleId.packages := by
    intro hne
    obtain ⟨name, hname⟩ := List.exists_mem_of_ne_nil _ hne
    obtain ⟨m, hfind, hdependencies⟩ := h.package name hname
    refine (hmet (hinv.packages.seen name hname)).tail ⟨m, ModuleId.packages, hfind, ?_⟩
    rw [hdependencies]
    rfl
  obtain ⟨m, hfind⟩ := OrderedMap.contains_eq_true_iff.1 hcontains
  rcases h.only id m hfind with hfound | ⟨rfl, hne⟩ | ⟨name, hname, rfl⟩ | ⟨hdepends, hne, _⟩
  · rcases hinv.modules.kinds id m hfound with rfl | hkeys | ⟨_, _, hseen, _⟩
    · exact .refl
    · exact hmet (hinv.files.seen (mem_known_of_built hkeys))
    · exact hmet hseen
  · exact hpackages hne
  · exact hmet (hinv.packages.seen name hname)
  · exact (hpackages hne).tail hdepends

/-- The file modules of a finished graph are those of the built files. -/
theorem Finished.contains_builds (h : Finished found graph) (hinv : Invariant p [] found)
    {path : String} (hcontains : graph.modules.contains path = true)
    (habsolute : Specifier.isAbsolute path = true) : found.builds.contains path = true := by
  obtain ⟨m, hfind⟩ := OrderedMap.contains_eq_true_iff.1 hcontains
  rcases h.only path m hfind with hfound | ⟨rfl, _⟩ | ⟨_, _, rfl⟩ | ⟨_, _, ⟨_, rfl⟩, _⟩
  · rcases hinv.modules.kinds path m hfound with rfl | hkeys | ⟨_, rfl, _⟩
    · exact absurd rfl (ModuleId.ne_entry_of_absolute habsolute)
    · exact OrderedMap.mem_keys_iff.1 hkeys
    · exact absurd rfl (ModuleId.host_ne_of_absolute habsolute _)
  · exact absurd rfl (ModuleId.ne_packages_of_absolute habsolute)
  · exact absurd rfl (ModuleId.package_ne_of_absolute habsolute _)
  · exact absurd rfl (ModuleId.host_ne_of_absolute habsolute _)

/-- The installed packages that a walk has found are those that reached files import. -/
theorem Invariant.mem_packages_iff (hrooted : p.Rooted) (hinv : Invariant p [] found)
    (hdone : found.waiting = []) (name : String) :
    name ∈ found.packages ↔ PackageImported p name := by
  constructor
  · exact fun hname => (hinv.met _ (hinv.packages.seen name hname)).packageImported hrooted
  · rintro ⟨path, specifier, hpath, himport⟩
    obtain ⟨_, hseen⟩ :=
      hinv.dependsOn ((hinv.contains_builds_iff hrooted hdone path).2 hpath) himport
    exact hinv.mem_packages_of_seen hrooted hseen

/-- The requests of a walk at its end. -/
theorem Invariant.calls_eq (hinv : Invariant p [] found) :
    found.calls = found.builds.keys.filterMap (fileCall p) := by
  simpa using hinv.calls

/-- Everything that holds of a finished graph. -/
theorem Finished.linkedTable (h : Finished found graph) (hrooted : p.Rooted)
    (hinv : Invariant p [] found) (hdone : found.waiting = [])
    (hcalls : calls = found.calls ++ packagesCall p found.packages) :
    LinkedTable p graph calls := by
  have hbuilds := hinv.contains_builds_iff hrooted hdone
  have hnoPath : (packagesCall p found.packages).filterMap BundlerCall.path? = [] := by
    unfold packagesCall
    split <;> rfl
  constructor
  case named => exact h.named
  case entry =>
    obtain ⟨m, hfind, hentries⟩ := hinv.modules.entry
    exact ⟨m, h.kept _ m hfind, hentries⟩
  case closed => exact fun id target hdepends => h.closed hinv hdone hdepends
  case imports =>
    intro path build hfind
    rw [h.builds] at hfind
    obtain ⟨hbuild, m, hmodule, hlinks⟩ := hinv.modules.built path build hfind
    refine ⟨hbuild, m, h.kept path m hmodule, fun specifier hmem => ?_⟩
    obtain ⟨target, _, hlink, _⟩ := hlinks.total specifier hmem
    exact OrderedMap.contains_of_find? hlink
  case reachable => exact fun id hcontains => h.reachable hrooted hinv hdone hcontains
  case files =>
    intro path
    constructor
    · exact fun ⟨hcontains, habsolute⟩ =>
        (hbuilds path).1 (h.contains_builds hinv hcontains habsolute)
    · intro hreached
      have hknown := (mem_known_iff hdone).2 ((hbuilds path).2 hreached)
      exact ⟨h.contains hinv hdone (hinv.files.seen hknown),
        hinv.isAbsolute_of_known hrooted hknown⟩
  case builds => exact h.builds ▸ hbuilds
  case sentOnce =>
    rw [hcalls, List.filterMap_append, hnoPath, List.append_nil, hinv.calls_eq]
    exact found.builds.distinctKeys.sublist (paths_of_fileCall_sublist _)
  case sent =>
    intro source loader path
    have hnot : .file source loader path ∉ packagesCall p found.packages := by
      unfold packagesCall
      split <;> simp
    rw [hcalls, List.mem_append, or_iff_left hnot, hinv.calls_eq, mem_filterMap_fileCall,
      OrderedMap.mem_keys_iff, hbuilds]
  case packages =>
    have himported := hinv.mem_packages_iff hrooted hdone
    rw [hcalls, List.filterMap_append, hinv.calls_eq, packages_of_fileCall, List.nil_append]
    by_cases hnone : found.packages = []
    · refine .inl ⟨by simp [packagesCall, hnone], fun name hname => ?_⟩
      simpa [hnone] using (himported name).2 hname
    · exact .inr ⟨found.packages, by simp [packagesCall, hnone, BundlerCall.packages?], hnone,
        hinv.packages.nodup, himported⟩

end Finished

/-- The modules that a walk finds are closed, reachable and built with the fewest requests. -/
theorem run_linkedTable (hrooted : p.Rooted) {graph : ModuleGraph} {calls : List BundlerCall}
    (h : run p = .ok (graph, calls)) : LinkedTable p graph calls := by
  simp only [run] at h
  split at h
  · simp at h
  · rename_i found hwalk
    obtain ⟨hinv, hdone⟩ := Invariant.generations hrooted (.start hrooted) (by omega) hwalk
    obtain ⟨hfinished, hcalls⟩ := hinv.addPackages hrooted h
    exact hfinished.linkedTable hrooted hinv hdone hcalls

end Walk

namespace Compile

variable {τ : Type} [FileText τ] {files : List (String × Value τ)} {c : Compiler}
  {sources : SourceTable}

/-- Files that can be entered make a project, whatever file among them is the entry file. -/
theorem rooted_of_ofFields {entry : String}
    (hsources : SourceTable.ofFields files = .ok sources) (hcontains : sources.contains entry = true) :
    (Walk.Project.mk sources entry c.bundler c.table).Rooted := by
  refine ⟨fun path hpath => ?_, hcontains⟩
  obtain ⟨spelling, hcanonical⟩ := SourceTable.canonical_of_contains hsources hpath
  exact Specifier.isAbsolute_of_canonical? hcanonical

/-- A project that is made of files has absolute paths and an entry file. -/
theorem rooted_of_project {entryFile : String} {p : Walk.Project}
    (hsources : SourceTable.ofFields files = .ok sources) (h : project c sources entryFile = .ok p) :
    p.Rooted ∧ ∃ entry, Path.canonical entryFile = .ok entry ∧
      p = ⟨sources, entry, c.bundler, c.table⟩ := by
  simp only [project] at h
  split at h
  · simp at h
  · rename_i entry hentry
    split at h
    · rename_i hcontains
      cases h
      exact ⟨rooted_of_ofFields hsources hcontains, entry, hentry, rfl⟩
    · simp at h

/-- The bundle of a compiled project is written from its modules. -/
theorem compileProject_eq_ok {p : Walk.Project} {compiled : Compiled}
    (h : compileProject p = .ok compiled) :
    Walk.run p = .ok (compiled.graph, compiled.calls) ∧
      compiled.bundle = compiled.graph.modules.link ModuleId.entry := by
  simp only [compileProject] at h
  split at h
  · simp at h
  · rename_i graph calls hrun
    simp only [finish] at h
    split at h
    · simp [Except.map] at h
    · split at h
      · simp [Except.map] at h
      · split at h
        · simp [Except.map] at h
        · simp only [Except.map, Except.ok.injEq] at h
          cases h
          exact ⟨hrun, rfl⟩
        · simp [Except.map] at h

/-- A bundle is written from modules that are closed, reachable from the entry module, and built with
the fewest requests. -/
theorem bundle_eq_link {entryFile text : String} (h : bundle c files entryFile = .ok text) :
    ∃ sources entry compiled, SourceTable.ofFields files = .ok sources ∧
      Path.canonical entryFile = .ok entry ∧ compileFiles c files entryFile = .ok compiled ∧
        text = compiled.graph.modules.link ModuleId.entry ∧
          Walk.LinkedTable ⟨sources, entry, c.bundler, c.table⟩ compiled.graph compiled.calls := by
  cases hcompiled : compileFiles c files entryFile with
  | error e => simp [bundle, hcompiled, Except.map] at h
  | ok compiled =>
      simp only [bundle, hcompiled, Except.map, Except.ok.injEq] at h
      have hfiles := hcompiled
      simp only [compileFiles] at hfiles
      split at hfiles
      · simp at hfiles
      · rename_i sources hsources
        split at hfiles
        · simp at hfiles
        · rename_i p hproject
          obtain ⟨hrooted, entry, hentry, rfl⟩ := rooted_of_project hsources hproject
          obtain ⟨hrun, hbundle⟩ := compileProject_eq_ok hfiles
          exact ⟨sources, entry, compiled, hsources, hentry, rfl, h.symm.trans hbundle,
            Walk.run_linkedTable hrooted hrun⟩

/-- A compiler for two files that import each other, the host, and a package. -/
def ringCompiler : Compiler where
  bundler :=
    { transform := fun source _ path =>
        .ok ⟨source, if path = "/a.ts" then ["./b", "react", "kit"] else ["./a", "kit"], none, [], []⟩
      bundlePackages := fun specifiers _ =>
        .ok ⟨"", ["remotion"], specifiers.map fun specifier => (specifier, none)⟩ }
  table := OrderedMap.ofList (HostPackage.all.map fun package => (package, []))

/-- The two files. -/
def ringFiles : Fields := [("a.ts", .text "a;"), ("/b.ts", .text "b;")]

/-- Two files that import each other make one bundle. -/
theorem bundle_ring :
    ∃ text, bundle ringCompiler ringFiles "/./a.ts" = .ok text ∧
      ∃ sources entry compiled, SourceTable.ofFields ringFiles = .ok sources ∧
        Path.canonical "/./a.ts" = .ok entry ∧
          compileFiles ringCompiler ringFiles "/./a.ts" = .ok compiled ∧
            text = compiled.graph.modules.link ModuleId.entry ∧
              Walk.LinkedTable ⟨sources, entry, ringCompiler.bundler, ringCompiler.table⟩
                compiled.graph compiled.calls := by
  have hok : (bundle ringCompiler ringFiles "/./a.ts").toBool = true := by decide +kernel
  cases h : bundle ringCompiler ringFiles "/./a.ts" with
  | error e => simp [h, Except.toBool] at hok
  | ok text => exact ⟨text, rfl, bundle_eq_link h⟩

end Compile
end VideoBundle
