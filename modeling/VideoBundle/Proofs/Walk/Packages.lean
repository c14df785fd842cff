import VideoBundle.Proofs.Walk.Invariant

/-!
# Installed packages at the end of a walk

Installed packages are built together when the files of a project are linked.  This adds a module that
holds all packages, a module for each of them, and perhaps modules of host packages that only the
installed packages import.

Main results:

- `PackageLinks.linkPackageImports`: what linking the imports of the packages' module adds.
- `Invariant.addPackages`: all modules of the finished graph, given those of the walk.
-/

namespace VideoBundle
namespace Walk

variable {p : Project} {found : Found}

/-- One module depends on another. -/
def DependsOn (modules : ModuleTable) (id target : String) : Prop :=
  ∃ m specifier, modules.find? id = some m ∧ m.dependencies.find? specifier = some target

/-! ## The imports of the packages' module -/

/-- The dependencies of the packages' module lead to host packages, whose modules are the only ones
that join the given modules. -/
structure PackageLinks (base : ModuleTable) (dependencies : OrderedMap String String)
    (modules : ModuleTable) : Prop where
  named : Named modules
  kept : ∀ id m, base.find? id = some m → modules.find? id = some m
  added : ∀ id m, modules.find? id = some m → base.find? id = some m ∨
    (∃ package : HostPackage, id = ModuleId.host package.specifier ∧
      dependencies.find? package.specifier = some id ∧ m.dependencies = OrderedMap.empty)
  linked : ∀ specifier id, dependencies.find? specifier = some id →
    id = ModuleId.host specifier ∧ modules.contains id = true

/-- Before the first import no package is linked. -/
theorem PackageLinks.start {base : ModuleTable} (h : Named base) :
    PackageLinks base OrderedMap.empty base :=
  ⟨h, fun _ _ h => h, fun _ _ h => .inl h, by simp⟩

/-- Linking one import of the packages' module. -/
theorem PackageLinks.insert {base modules modules' : ModuleTable}
    {dependencies : OrderedMap String String} {package : HostPackage}
    (h : PackageLinks base dependencies modules)
    (hadd : addHost p package modules = .ok modules') :
    PackageLinks base (dependencies.insert package.specifier (ModuleId.host package.specifier))
      modules' := by
  obtain ⟨⟨m, hhost, hnew⟩, hother⟩ := addHost_find? hadd
  have hgrow : ∀ id m, modules.find? id = some m → modules'.find? id = some m := by
    intro id m' hfind
    by_cases hid : id = ModuleId.host package.specifier
    · have hcontains : modules.contains (ModuleId.host package.specifier) = true :=
        OrderedMap.contains_of_find? (hid ▸ hfind)
      simp only [addHost, hcontains, if_true, Except.ok.injEq] at hadd
      rwa [← hadd]
    · rwa [hother id hid]
  have hdependencies : ∀ specifier id, dependencies.find? specifier = some id →
      (dependencies.insert package.specifier (ModuleId.host package.specifier)).find? specifier =
        some id := by
    intro specifier id hfind
    rw [OrderedMap.find?_insert]
    split
    · rename_i hspecifier
      rw [(h.linked specifier id hfind).1, hspecifier]
    · exact hfind
  constructor
  case named => exact h.named.addHost hadd
  case kept => exact fun id m hfind => hgrow id m (h.kept id m hfind)
  case added =>
    have hold : ∀ id m, modules.find? id = some m → base.find? id = some m ∨
        (∃ package' : HostPackage, id = ModuleId.host package'.specifier ∧
          (dependencies.insert package.specifier (ModuleId.host package.specifier)).find?
              package'.specifier = some id ∧
            m.dependencies = OrderedMap.empty) := by
      intro id m hfind
      rcases h.added id m hfind with hbase | ⟨package', hid, hlink, hempty⟩
      · exact .inl hbase
      · exact .inr ⟨package', hid, hdependencies _ _ hlink, hempty⟩
    intro id m' hfind
    by_cases hid : id = ModuleId.host package.specifier
    · subst hid
      rw [hhost] at hfind
      cases hfind
      rcases hnew with hfind | hempty
      · exact hold _ _ hfind
      · exact .inr ⟨package, rfl, by simp, hempty⟩
    · exact hold id m' (by rwa [hother id hid] at hfind)
  case linked =>
    intro specifier id hfind
    rw [OrderedMap.find?_insert] at hfind
    split at hfind
    · rename_i hspecifier
      cases hfind
      exact ⟨by rw [hspecifier], OrderedMap.contains_of_find? hhost⟩
    · obtain ⟨hid, hcontains⟩ := h.linked specifier id hfind
      exact ⟨hid, contains_of_addHost hadd id hcontains⟩

/-- Linking the imports of the packages' module keeps the given modules and adds those of the host
packages to which they lead. -/
theorem PackageLinks.linkPackageImports {base modules modules' : ModuleTable}
    {dependencies dependencies' : OrderedMap String String} {specifiers : List String}
    (hlinks : PackageLinks base dependencies modules)
    (h : Walk.linkPackageImports p dependencies modules specifiers = .ok (dependencies', modules')) :
    PackageLinks base dependencies' modules' := by
  induction specifiers generalizing dependencies modules with
  | nil =>
      cases h
      exact hlinks
  | cons specifier specifiers ih =>
      simp only [Walk.linkPackageImports] at h
      split at h
      · simp at h
      · rename_i package hpackage
        split at h
        · simp at h
        · rename_i modules₁ hadd
          rw [← HostPackage.specifier_of_ofSpecifier? hpackage] at h
          exact ih (hlinks.insert hadd) h

/-! ## The modules of installed packages -/

/-- Packages are entered under their own identifiers. -/
theorem Named.addPackages {modules : ModuleTable} (h : Named modules) (packages : List String) :
    Named (packages.foldl addPackage modules) := by
  induction packages generalizing modules with
  | nil => exact h
  | cons specifier packages ih => exact ih (h.insert rfl)

/-- Adding packages changes no other module. -/
theorem foldl_addPackage_other {packages : List String} {modules : ModuleTable} {id : String}
    (h : ∀ specifier ∈ packages, id ≠ ModuleId.package specifier) :
    (packages.foldl addPackage modules).find? id = modules.find? id := by
  induction packages generalizing modules with
  | nil => rfl
  | cons specifier packages ih =>
      rw [List.foldl_cons, ih fun other hmem => h other (List.mem_cons_of_mem _ hmem), addPackage,
        OrderedMap.find?_insert, if_neg (h specifier List.mem_cons_self)]

/-- The module of an installed package depends on the packages' module and on nothing else. -/
theorem foldl_addPackage_package {packages : List String} {modules : ModuleTable}
    {specifier : String} (h : specifier ∈ packages) :
    (packages.foldl addPackage modules).find? (ModuleId.package specifier) =
      some ⟨ModuleId.package specifier, ModuleSource.package specifier,
        OrderedMap.ofList [(ModuleId.packages, ModuleId.packages)]⟩ := by
  induction packages generalizing modules with
  | nil => simp at h
  | cons other packages ih =>
      rw [List.foldl_cons]
      by_cases hmem : specifier ∈ packages
      · exact ih hmem
      · obtain rfl : specifier = other := (List.mem_cons.1 h).resolve_right hmem
        rw [foldl_addPackage_other, addPackage, OrderedMap.find?_insert, if_pos rfl]
        intro other hother heq
        exact hmem (ModuleId.package_injective heq ▸ hother)

/-- The modules of a finished graph: those of the walk, one for each installed package, the one that
holds the packages, and host packages on which that one depends. -/
structure Finished (found : Found) (graph : ModuleGraph) : Prop where
  builds : graph.builds = found.builds
  named : Named graph.modules
  kept : ∀ id m, found.modules.find? id = some m → graph.modules.find? id = some m
  package : ∀ specifier ∈ found.packages, ∃ m,
    graph.modules.find? (ModuleId.package specifier) = some m ∧
      m.dependencies = OrderedMap.ofList [(ModuleId.packages, ModuleId.packages)]
  packages : found.packages ≠ [] → ∃ m, graph.modules.find? ModuleId.packages = some m ∧
    ∀ specifier id, m.dependencies.find? specifier = some id → graph.modules.contains id = true
  only : ∀ id m, graph.modules.find? id = some m →
    found.modules.find? id = some m ∨ (id = ModuleId.packages ∧ found.packages ≠ []) ∨
      (∃ specifier ∈ found.packages, id = ModuleId.package specifier) ∨
        (DependsOn graph.modules ModuleId.packages id ∧ found.packages ≠ [] ∧
          (∃ package : HostPackage, id = ModuleId.host package.specifier) ∧
            m.dependencies = OrderedMap.empty)

/-- The identifiers of a walk's modules are neither that of the packages' module nor that of an
installed package. -/
theorem Invariant.apart_of_find? (hrooted : p.Rooted) {pending : List String}
    (hinv : Invariant p pending found) {id : String} {m : Module}
    (h : found.modules.find? id = some m) :
    id ≠ ModuleId.packages ∧ ∀ specifier, id ≠ ModuleId.package specifier := by
  rcases hinv.modules.kinds id m h with rfl | hkeys | ⟨package, rfl, -⟩
  · exact ⟨by decide, fun specifier => (ModuleId.package_ne_entry specifier).symm⟩
  · have habsolute := hinv.isAbsolute_of_known hrooted (mem_known_of_built hkeys)
    exact ⟨ModuleId.ne_packages_of_absolute habsolute,
      fun specifier => (ModuleId.package_ne_of_absolute habsolute specifier).symm⟩
  · exact ⟨ModuleId.host_ne_packages _, ModuleId.host_ne_package _⟩

/-- The graph of a walk with its packages' module, linked to the host, and a module for each installed
package. -/
def finishedGraph (found : Found) (built : BuiltPackages)
    (dependencies : OrderedMap String String) (modules : ModuleTable) : ModuleGraph where
  modules := found.packages.foldl addPackage
    (modules.insert ModuleId.packages ⟨ModuleId.packages, built.code, dependencies⟩)
  builds := found.builds
  packageExports := OrderedMap.ofList built.exports

section FinishedGraph

variable (found) (built : BuiltPackages) (dependencies : OrderedMap String String)
  (modules : ModuleTable)

/-- The finished graph has the package bundle as a module. -/
theorem finishedGraph_packages :
    (finishedGraph found built dependencies modules).modules.find? ModuleId.packages =
      some ⟨ModuleId.packages, built.code, dependencies⟩ := by
  rw [finishedGraph, foldl_addPackage_other, OrderedMap.find?_insert, if_pos rfl]
  exact fun specifier _ => (ModuleId.package_ne_packages specifier).symm

/-- Other modules are those that were there before. -/
theorem finishedGraph_other {id : String} (hid : id ≠ ModuleId.packages)
    (hids : ∀ specifier ∈ found.packages, id ≠ ModuleId.package specifier) :
    (finishedGraph found built dependencies modules).modules.find? id = modules.find? id := by
  rw [finishedGraph, foldl_addPackage_other hids, OrderedMap.find?_insert, if_neg hid]

end FinishedGraph

/-- Adding installed packages to the modules of a walk finishes its graph. -/
theorem PackageLinks.finished {dependencies : OrderedMap String String} {modules : ModuleTable}
    (hlinks : PackageLinks found.modules dependencies modules) (hrooted : p.Rooted)
    (hinv : Invariant p [] found) (hsome : found.packages ≠ []) (built : BuiltPackages) :
    Finished found (finishedGraph found built dependencies modules) := by
  have hpackages := finishedGraph_packages found built dependencies modules
  constructor
  case builds => rfl
  case named =>
    have hnamed : Named (modules.insert ModuleId.packages
        ⟨ModuleId.packages, built.code, dependencies⟩) := hlinks.named.insert rfl
    exact hnamed.addPackages found.packages
  case kept =>
    intro id m hfind
    obtain ⟨hid, hids⟩ := hinv.apart_of_find? hrooted hfind
    rw [finishedGraph_other _ _ _ _ hid fun specifier _ => hids specifier]
    exact hlinks.kept id m hfind
  case package => exact fun specifier hmem => ⟨_, foldl_addPackage_package hmem, rfl⟩
  case packages =>
    refine fun _ => ⟨_, hpackages, ?_⟩
    intro specifier id hfind
    obtain ⟨rfl, hcontains⟩ := hlinks.linked specifier id hfind
    rwa [OrderedMap.contains, finishedGraph_other _ _ _ _ (ModuleId.host_ne_packages specifier)
      fun other _ => ModuleId.host_ne_package specifier other]
  case only =>
    intro id m hfind
    by_cases hid : id = ModuleId.packages
    · exact .inr (.inl ⟨hid, hsome⟩)
    · by_cases hids : ∃ specifier ∈ found.packages, id = ModuleId.package specifier
      · exact .inr (.inr (.inl hids))
      · rw [finishedGraph_other _ _ _ _ hid fun specifier hmem heq => hids ⟨specifier, hmem, heq⟩]
          at hfind
        rcases hlinks.added id m hfind with hfound | ⟨package, hhost, hdepends, hempty⟩
        · exact .inl hfound
        · exact .inr (.inr (.inr ⟨⟨_, _, hpackages, hdepends⟩, hsome, ⟨package, hhost⟩, hempty⟩))

/-- The request for the installed packages of a project, if there are any. -/
def packagesCall (p : Project) (packages : List String) : List BundlerCall :=
  if packages = [] then [] else [.packages packages p.table.packageNames]

/-- Adding the installed packages finishes the graph and makes at most one request. -/
theorem Invariant.addPackages (hrooted : p.Rooted) {graph : ModuleGraph}
    {calls : List BundlerCall} (hinv : Invariant p [] found)
    (h : Walk.addPackages p found = .ok (graph, calls)) :
    Finished found graph ∧ calls = found.calls ++ packagesCall p found.packages := by
  simp only [Walk.addPackages] at h
  split at h
  · rename_i hnone
    cases h
    refine ⟨⟨rfl, hinv.modules.named, fun _ _ h => h, by simp [hnone], by simp [hnone],
      fun _ _ h => .inl h⟩, ?_⟩
    simp [packagesCall, hnone]
  · rename_i hsome
    split at h
    · simp at h
    · simp at h
    · rename_i built _
      split at h
      · simp at h
      · rename_i dependencies modules hlink
        cases h
        have hlinks := PackageLinks.linkPackageImports (.start hinv.modules.named) hlink
        exact ⟨hlinks.finished hrooted hinv hsome built, by simp [packagesCall, hsome]⟩

end Walk
end VideoBundle
