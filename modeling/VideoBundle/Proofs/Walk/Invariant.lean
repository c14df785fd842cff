import VideoBundle.Proofs.Walk.Reached

/-!
# What every walk keeps

A walk knows files in three states: built files, files that are being linked, and files that wait for
the next generation.  Targets are put among those that were met before their modules exist, so that
the modules are not closed under their dependencies while the walk goes on.  What does hold at every
moment is that a target that was met has its module, or is a file that is being linked or waits, or is
an installed package whose module is added at the end.

Main results:

- `Invariant.start`: the invariant holds before the first file is built.
- `meet_eq_ok`: everything that meeting the target of an import can do.
- `Invariant.meet`: meeting the target of an import keeps the invariant.
-/

namespace VideoBundle
namespace Walk

variable {p : Project} {pending : List String} {found found' : Found}

/-- All files that a walk knows: built, being linked, and waiting. -/
def knownFiles (pending : List String) (found : Found) : List String :=
  found.builds.keys ++ pending ++ found.waiting

/-! ## Parts of the invariant -/

/-- Known files are distinct sources that were met. -/
structure FilesKnown (p : Project) (files seen : List String) : Prop where
  nodup : files.Nodup
  seen : files ⊆ seen
  source : ∀ path ∈ files, p.sources.contains path = true

/-- Known installed packages are distinct and were met. -/
structure PackagesKnown (packages seen : List String) : Prop where
  nodup : packages.Nodup
  seen : ∀ specifier ∈ packages, ModuleId.package specifier ∈ seen

/-- The dependencies of a built file: its imports and nothing else, each with the identifier of its
target, which was met. -/
structure Links (p : Project) (path : String) (imports : List String)
    (dependencies : OrderedMap String String) (seen : List String) : Prop where
  total : ∀ specifier ∈ imports, ∃ target, p.resolve path specifier = .ok target ∧
    dependencies.find? specifier = some (moduleId target) ∧ moduleId target ∈ seen
  only : ∀ specifier id, dependencies.find? specifier = some id → specifier ∈ imports

/-- Every module is kept under the identifier under which it is written. -/
def Named (modules : ModuleTable) : Prop :=
  ∀ id m, modules.find? id = some m → m.id = id

/-- The modules are that of the entry, those of the built files, and modules without dependencies for
host packages that were met. -/
structure ModulesLinked (p : Project) (modules : ModuleTable)
    (builds : OrderedMap String BuiltFile) (seen : List String) : Prop where
  named : Named modules
  entry : ∃ m, modules.find? ModuleId.entry = some m ∧ m.dependencies.entries = [(p.entry, p.entry)]
  built : ∀ path build, builds.find? path = some build →
    (∃ calls, buildFile p path = .ok (build, calls)) ∧
      ∃ m, modules.find? path = some m ∧ Links p path build.imports m.dependencies seen
  kinds : ∀ id m, modules.find? id = some m → id = ModuleId.entry ∨ id ∈ builds.keys ∨
    (∃ package : HostPackage, id = ModuleId.host package.specifier ∧ id ∈ seen ∧
      m.dependencies = OrderedMap.empty)

/-- An identifier that was met has its module, or will have it at the end of the walk. -/
def Accounted (files packages : List String) (modules : ModuleTable) (id : String) : Prop :=
  id = ModuleId.entry ∨ id ∈ files ∨
    (∃ package : HostPackage, id = ModuleId.host package.specifier ∧ modules.contains id = true) ∨
      ∃ specifier ∈ packages, id = ModuleId.package specifier

/-- What holds of a walk while some files are being linked. -/
structure Invariant (p : Project) (pending : List String) (found : Found) : Prop where
  files : FilesKnown p (knownFiles pending found) found.seen
  packages : PackagesKnown found.packages found.seen
  modules : ModulesLinked p found.modules found.builds found.seen
  entry_seen : p.entry ∈ found.seen
  /-- Only targets of imports in reached files are met. -/
  met : ∀ id ∈ found.seen, Met p id
  accounted : ∀ id ∈ found.seen, Accounted (knownFiles pending found) found.packages found.modules id
  /-- Every source file was sent to the bundler once, when it was built. -/
  calls : found.calls = (found.builds.keys ++ pending).filterMap (fileCall p)

section Parts

variable {files seen seen' packages : List String} {modules modules' : ModuleTable}
  {builds : OrderedMap String BuiltFile}

/-- Known files stay known when more is seen. -/
theorem FilesKnown.mono (h : FilesKnown p files seen) (hseen : seen ⊆ seen') :
    FilesKnown p files seen' :=
  ⟨h.nodup, List.Subset.trans h.seen hseen, h.source⟩

/-- A source that is met for the first time joins the known files. -/
theorem FilesKnown.append (h : FilesKnown p files seen) {path : String}
    (hsource : p.sources.contains path = true) (hnew : path ∉ seen) :
    FilesKnown p (files ++ [path]) (path :: seen) := by
  refine ⟨List.nodup_append.2 ⟨h.nodup, by simp, ?_⟩, ?_, ?_⟩
  · intro other hother last hlast heq
    rw [List.mem_singleton] at hlast
    exact hnew (hlast ▸ heq ▸ h.seen hother)
  · intro other hother
    rcases List.mem_append.1 hother with hother | hother
    · exact List.mem_cons_of_mem _ (h.seen hother)
    · simpa using Or.inl (List.mem_singleton.1 hother)
  · intro other hother
    rcases List.mem_append.1 hother with hother | hother
    · exact h.source other hother
    · rwa [List.mem_singleton.1 hother]

theorem PackagesKnown.mono (h : PackagesKnown packages seen) (hseen : seen ⊆ seen') :
    PackagesKnown packages seen' :=
  ⟨h.nodup, fun specifier hmem => hseen (h.seen specifier hmem)⟩

/-- An installed package that is met for the first time joins the known ones. -/
theorem PackagesKnown.append (h : PackagesKnown packages seen) {specifier : String}
    (hnew : ModuleId.package specifier ∉ seen) :
    PackagesKnown (packages ++ [specifier]) (ModuleId.package specifier :: seen) := by
  refine ⟨List.nodup_append.2 ⟨h.nodup, by simp, ?_⟩, ?_⟩
  · intro other hother last hlast heq
    rw [List.mem_singleton] at hlast
    exact hnew (hlast ▸ heq ▸ h.seen other hother)
  · intro other hother
    rcases List.mem_append.1 hother with hother | hother
    · exact List.mem_cons_of_mem _ (h.seen other hother)
    · rw [List.mem_singleton.1 hother]
      exact List.mem_cons_self

theorem Links.mono {path : String} {imports : List String}
    {dependencies : OrderedMap String String} (h : Links p path imports dependencies seen)
    (hseen : seen ⊆ seen') : Links p path imports dependencies seen' := by
  refine ⟨fun specifier hmem => ?_, h.only⟩
  obtain ⟨target, hresolve, hfind, htarget⟩ := h.total specifier hmem
  exact ⟨target, hresolve, hfind, hseen htarget⟩

/-- A module that is entered under its own identifier keeps the table named. -/
theorem Named.insert (h : Named modules) {id : String} {m : Module} (hid : m.id = id) :
    Named (modules.insert id m) := by
  intro other m' hfind
  rw [OrderedMap.find?_insert] at hfind
  split at hfind
  · rename_i heq
    cases hfind
    rw [hid, heq]
  · exact h other m' hfind

/-- Linked modules stay linked when more is seen. -/
theorem ModulesLinked.mono (h : ModulesLinked p modules builds seen) (hseen : seen ⊆ seen') :
    ModulesLinked p modules builds seen' := by
  refine ⟨h.named, h.entry, ?_, ?_⟩
  · intro path build hfind
    obtain ⟨hbuild, m, hmodule, hlinks⟩ := h.built path build hfind
    exact ⟨hbuild, m, hmodule, hlinks.mono hseen⟩
  · intro id m hfind
    rcases h.kinds id m hfind with hentry | hkeys | ⟨package, hid, hmem, hempty⟩
    · exact .inl hentry
    · exact .inr (.inl hkeys)
    · exact .inr (.inr ⟨package, hid, hseen hmem, hempty⟩)

theorem Accounted.mono {files' packages' : List String} {id : String}
    (h : Accounted files packages modules id) (hfiles : files ⊆ files')
    (hpackages : packages ⊆ packages')
    (hmodules : ∀ id, modules.contains id = true → modules'.contains id = true) :
    Accounted files' packages' modules' id := by
  rcases h with h | h | ⟨package, hid, hmodule⟩ | ⟨specifier, hspecifier, hid⟩
  · exact .inl h
  · exact .inr (.inl (hfiles h))
  · exact .inr (.inr (.inl ⟨package, hid, hmodules id hmodule⟩))
  · exact .inr (.inr (.inr ⟨specifier, hpackages hspecifier, hid⟩))

end Parts

/-! ## The start -/

/-- The walk begins with the entry waiting and nothing else. -/
theorem Invariant.start (hrooted : p.Rooted) : Invariant p [] (start p) := by
  have hknown : knownFiles [] (Walk.start p) = [p.entry] := rfl
  have hseen : (Walk.start p).seen = [ModuleId.entry, p.entry] := rfl
  constructor
  case files => exact ⟨by simp [hknown], by simp [hknown, hseen], by simpa [hknown] using hrooted.entry⟩
  case packages => exact ⟨List.nodup_nil, by simp [Walk.start]⟩
  case modules =>
    refine ⟨?_, ⟨_, rfl, rfl⟩, by simp [Walk.start], ?_⟩
    · intro id m hfind
      cases List.mem_singleton.1 (OrderedMap.mem_entries_iff.2 hfind)
      rfl
    · intro id m hfind
      have hmem := OrderedMap.mem_entries_iff.2 hfind
      exact .inl (congrArg Prod.fst (List.mem_singleton.1 hmem))
  case entry_seen => simp [hseen]
  case met =>
    rw [hseen]
    intro id hmem
    rcases List.mem_cons.1 hmem with rfl | hmem
    · exact .entryModule
    · rw [List.mem_singleton.1 hmem]
      exact .entryFile
  case accounted =>
    rw [hseen, hknown]
    intro id hmem
    rcases List.mem_cons.1 hmem with rfl | hmem
    · exact .inl rfl
    · exact .inr (.inl hmem)
  case calls => rfl

/-! ## Meeting targets -/

/-- Adding a host package leaves a module without new dependencies under its identifier, and all
other modules as they are. -/
theorem addHost_find? {package : HostPackage} {modules modules' : ModuleTable}
    (h : addHost p package modules = .ok modules') :
    (∃ m, modules'.find? (ModuleId.host package.specifier) = some m ∧
      (modules.find? (ModuleId.host package.specifier) = some m ∨
        m.dependencies = OrderedMap.empty)) ∧
      ∀ id, id ≠ ModuleId.host package.specifier → modules'.find? id = modules.find? id := by
  simp only [addHost] at h
  split at h
  · rename_i hcontains
    cases h
    obtain ⟨m, hfind⟩ := OrderedMap.contains_eq_true_iff.1 hcontains
    exact ⟨⟨m, hfind, .inl hfind⟩, fun id _ => rfl⟩
  · split at h
    · cases h
      exact ⟨⟨_, by rw [OrderedMap.find?_insert, if_pos rfl], .inr rfl⟩,
        fun id hid => by rw [OrderedMap.find?_insert, if_neg hid]⟩
    · simp at h

/-- A host package is entered under its own identifier. -/
theorem Named.addHost {modules modules' : ModuleTable} {package : HostPackage}
    (h : Named modules) (hadd : Walk.addHost p package modules = .ok modules') : Named modules' := by
  simp only [Walk.addHost] at hadd
  split at hadd
  · cases hadd
    exact h
  · split at hadd
    · cases hadd
      exact h.insert rfl
    · simp at hadd

/-- Everything that meeting a target can do. -/
theorem meet_eq_ok {target : ImportTarget} (h : meet p target found = .ok found') :
    (moduleId target ∈ found.seen ∧ found' = found) ∨
      (moduleId target ∉ found.seen ∧
        ((∃ package modules, target = .host package ∧
            addHost p package found.modules = .ok modules ∧
              found' = { found with seen := moduleId target :: found.seen, modules }) ∨
          (∃ specifier, target = .package specifier ∧
            found' = { found with
              seen := moduleId target :: found.seen
              packages := found.packages ++ [specifier] }) ∨
          (∃ path, target = .file path ∧
            found' = { found with
              seen := moduleId target :: found.seen
              waiting := found.waiting ++ [path] }))) := by
  simp only [meet] at h
  split at h
  · rename_i hseen
    cases h
    exact .inl ⟨by simpa using hseen, rfl⟩
  · rename_i hseen
    refine .inr ⟨by simpa using hseen, ?_⟩
    cases target with
    | host package =>
        cases hadd : addHost p package found.modules with
        | error e => simp [hadd, Except.map] at h
        | ok modules =>
            simp only [hadd, Except.map, Except.ok.injEq] at h
            exact .inl ⟨package, modules, rfl, hadd, h.symm⟩
    | file path => exact .inr (.inr ⟨path, rfl, by cases h; rfl⟩)
    | package specifier => exact .inr (.inl ⟨specifier, rfl, by cases h; rfl⟩)

/-- Known files have absolute paths. -/
theorem Invariant.isAbsolute_of_known (hinv : Invariant p pending found) (hrooted : p.Rooted)
    {path : String} (h : path ∈ knownFiles pending found) : Specifier.isAbsolute path = true :=
  hrooted.absolute path (hinv.files.source path h)

/-- Files that were built are known. -/
theorem mem_known_of_built {path : String} (h : path ∈ found.builds.keys) :
    path ∈ knownFiles pending found := by
  simp [knownFiles, h]

/-- Known files are reached. -/
theorem Invariant.reached_of_known (hinv : Invariant p pending found) (hrooted : p.Rooted)
    {path : String} (h : path ∈ knownFiles pending found) : ReachedFile p path :=
  (hinv.met path (hinv.files.seen h)).reachedFile (hinv.isAbsolute_of_known hrooted h)

/-- A file that was met is known. -/
theorem Invariant.mem_known_of_seen (hinv : Invariant p pending found) {path : String}
    (habsolute : Specifier.isAbsolute path = true) (h : path ∈ found.seen) :
    path ∈ knownFiles pending found := by
  rcases hinv.accounted path h with rfl | hfile | ⟨_, rfl, _⟩ | ⟨_, _, rfl⟩
  · exact absurd rfl (ModuleId.ne_entry_of_absolute habsolute)
  · exact hfile
  · exact absurd rfl (ModuleId.host_ne_of_absolute habsolute _)
  · exact absurd rfl (ModuleId.package_ne_of_absolute habsolute _)

/-- An installed package that was met is known. -/
theorem Invariant.mem_packages_of_seen (hinv : Invariant p pending found) (hrooted : p.Rooted)
    {specifier : String} (h : ModuleId.package specifier ∈ found.seen) :
    specifier ∈ found.packages := by
  rcases hinv.accounted _ h with heq | hfile | ⟨package, heq, _⟩ | ⟨other, hother, heq⟩
  · exact absurd heq (ModuleId.package_ne_entry specifier)
  · exact absurd rfl
      (ModuleId.package_ne_of_absolute (hinv.isAbsolute_of_known hrooted hfile) specifier)
  · exact absurd heq.symm (ModuleId.host_ne_package _ _)
  · exact ModuleId.package_injective heq ▸ hother

/-- Adding a host package keeps the modules linked, because no file and no entry has its
identifier. -/
theorem ModulesLinked.addHost {modules modules' : ModuleTable}
    {builds : OrderedMap String BuiltFile} {seen : List String} {package : HostPackage}
    (h : ModulesLinked p modules builds seen)
    (habsolute : ∀ path ∈ builds.keys, Specifier.isAbsolute path = true)
    (hmem : ModuleId.host package.specifier ∈ seen)
    (hadd : Walk.addHost p package modules = .ok modules') :
    ModulesLinked p modules' builds seen := by
  obtain ⟨⟨m, hhost, hnew⟩, hother⟩ := addHost_find? hadd
  have hbuilt : ∀ path ∈ builds.keys, path ≠ ModuleId.host package.specifier :=
    fun path hpath => (ModuleId.host_ne_of_absolute (habsolute path hpath) _).symm
  constructor
  case named => exact h.named.addHost hadd
  case entry =>
    obtain ⟨m', hfind, hentries⟩ := h.entry
    exact ⟨m', by rw [hother _ (ModuleId.host_ne_entry _).symm, hfind], hentries⟩
  case built =>
    intro path build hfind
    obtain ⟨hbuild, m', hmodule, hlinks⟩ := h.built path build hfind
    have hkey := OrderedMap.mem_keys_iff.2 (OrderedMap.contains_of_find? hfind)
    exact ⟨hbuild, m', by rw [hother path (hbuilt path hkey), hmodule], hlinks⟩
  case kinds =>
    intro id m' hfind
    by_cases hid : id = ModuleId.host package.specifier
    · subst hid
      rw [hhost] at hfind
      cases hfind
      refine .inr (.inr ⟨package, rfl, hmem, ?_⟩)
      rcases hnew with hold | hempty
      · rcases h.kinds _ _ hold with hentry | hkeys | ⟨_, _, _, hempty⟩
        · exact absurd hentry (ModuleId.host_ne_entry _)
        · exact absurd rfl (hbuilt _ hkeys)
        · exact hempty
      · exact hempty
    · rw [hother id hid] at hfind
      exact h.kinds id m' hfind

/-- Adding a host package drops no module. -/
theorem contains_of_addHost {modules modules' : ModuleTable} {package : HostPackage}
    (hadd : Walk.addHost p package modules = .ok modules') (id : String)
    (h : modules.contains id = true) : modules'.contains id = true := by
  obtain ⟨⟨m, hhost, _⟩, hother⟩ := addHost_find? hadd
  by_cases hid : id = ModuleId.host package.specifier
  · exact OrderedMap.contains_of_find? (hid ▸ hhost)
  · rwa [OrderedMap.contains, hother id hid]

/-- Meeting the target of an import keeps the invariant; the target was then met, and what was met or
built before still is. -/
theorem Invariant.meet (hinv : Invariant p pending found) (hrooted : p.Rooted)
    {target : ImportTarget} (hmet : Met p (moduleId target))
    (hfile : ∀ path, target = .file path → p.sources.contains path = true)
    (h : Walk.meet p target found = .ok found') :
    Invariant p pending found' ∧ moduleId target ∈ found'.seen ∧ found.seen ⊆ found'.seen ∧
      found'.builds = found.builds := by
  have hseen : found.seen ⊆ moduleId target :: found.seen := List.subset_cons_self _ _
  have hmets : ∀ id ∈ moduleId target :: found.seen, Met p id := by
    intro id hmem
    rcases List.mem_cons.1 hmem with rfl | hmem
    · exact hmet
    · exact hinv.met id hmem
  rcases meet_eq_ok h with ⟨hmem, rfl⟩ | ⟨hnew, hstep⟩
  · exact ⟨hinv, hmem, List.Subset.refl _, rfl⟩
  · rcases hstep with ⟨package, modules, rfl, hadd, rfl⟩ | ⟨specifier, rfl, rfl⟩ | ⟨path, rfl, rfl⟩
    · refine ⟨⟨hinv.files.mono hseen, hinv.packages.mono hseen, ?_, hseen hinv.entry_seen, hmets,
        ?_, hinv.calls⟩, List.mem_cons_self, hseen, rfl⟩
      · refine (hinv.modules.mono hseen).addHost (fun path hpath => ?_) List.mem_cons_self hadd
        exact hinv.isAbsolute_of_known hrooted (mem_known_of_built hpath)
      · intro id hmem
        rcases List.mem_cons.1 hmem with rfl | hmem
        · obtain ⟨⟨m, hhost, _⟩, _⟩ := addHost_find? hadd
          exact .inr (.inr (.inl ⟨package, rfl, OrderedMap.contains_of_find? hhost⟩))
        · exact (hinv.accounted id hmem).mono (List.Subset.refl _) (List.Subset.refl _)
            (contains_of_addHost hadd)
    · refine ⟨⟨hinv.files.mono hseen, hinv.packages.append hnew, hinv.modules.mono hseen,
        hseen hinv.entry_seen, hmets, ?_, hinv.calls⟩, List.mem_cons_self, hseen, rfl⟩
      intro id hmem
      rcases List.mem_cons.1 hmem with rfl | hmem
      · exact .inr (.inr (.inr ⟨specifier, by simp, rfl⟩))
      · exact (hinv.accounted id hmem).mono (List.Subset.refl _) (List.subset_append_left _ _)
          fun _ h => h
    · have hknown : knownFiles pending { found with
          seen := path :: found.seen
          waiting := found.waiting ++ [path] } = knownFiles pending found ++ [path] := by
        simp [knownFiles]
      refine ⟨⟨?_, hinv.packages.mono hseen, hinv.modules.mono hseen, hseen hinv.entry_seen, hmets,
        ?_, hinv.calls⟩, List.mem_cons_self, hseen, rfl⟩
      · exact hknown ▸ hinv.files.append (hfile path rfl) hnew
      · intro id hmem
        rw [moduleId, hknown]
        rcases List.mem_cons.1 hmem with rfl | hmem
        · exact .inr (.inl (by simp))
        · exact (hinv.accounted id hmem).mono (List.subset_append_left _ _) (List.Subset.refl _)
            fun _ h => h

end Walk
end VideoBundle
