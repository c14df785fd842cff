import VideoBundle.Proofs.Module.ExportSearch

/-!
# Missing exports

Which names the export check reports, said through reachability alone.  A name is missing at a module
when the names of all modules that star edges reach from there are known, and none of them makes the
module offer the name.  The default import of an installed package is never missing.

Main results:

- `checkBindings_eq`, `checkFiles_eq`: checking files one after another reports the missing names of
  each, whatever answers were kept before.
- `missingExports_eq`: the report has one diagnostic for every import of a missing name, in the order
  of files and then of imports.
-/

namespace VideoBundle
namespace ModuleGraph

/-- A name is missing at a module to which an import leads. -/
def Missing (graph : ModuleGraph) (table : ExportTable) (target name : String) : Prop :=
  ¬((∃ specifier, target = ModuleId.package specifier) ∧ name = "default") ∧
    (∀ other, graph.Reaches target other → graph.Named table other) ∧
      ¬graph.Offers table target name

open Classical in
/-- The report on one import of a file: a diagnostic if the import leads somewhere and the name is
missing there. -/
noncomputable def bindingReport (graph : ModuleGraph) (table : ExportTable) (file source : String)
    (dependencies : OrderedMap String String) (binding : Binding) : List Diagnostic :=
  match dependencies.find? binding.specifier with
  | none => []
  | some target =>
      if graph.Missing table target binding.name then
        [ExportCheck.diagnostic file target binding source]
      else []

/-- The report on a file: the reports on its imports, in order. -/
noncomputable def fileReport (graph : ModuleGraph) (table : ExportTable) (sources : SourceTable)
    (file : String) (build : BuiltFile) : List Diagnostic :=
  match graph.modules.find? file, sources.find? file with
  | some m, some source =>
      build.bindings.flatMap (graph.bindingReport table file source.toText m.dependencies)
  | _, _ => []

end ModuleGraph

namespace ExportCheck

open ModuleGraph

variable {graph : ModuleGraph} {table : ExportTable} {sources : SourceTable}

/-- An exact answer that gives names tells which names are missing, apart from the default import of
an installed package. -/
theorem missing_iff_of_settles {target name : String} {names : List String}
    (hdefault : ¬((ModuleId.packageOf? target).isSome = true ∧ name = "default"))
    (h : Settles graph table [] target (some names)) :
    graph.Missing table target name ↔ name ∉ names := by
  obtain ⟨hnamed, hexact⟩ := settles_nil_some_iff.1 h
  have hpackage : ¬((∃ specifier, target = ModuleId.package specifier) ∧ name = "default") := by
    rintro ⟨⟨specifier, rfl⟩, hname⟩
    exact hdefault ⟨by simp, hname⟩
  rw [hexact]
  exact ⟨fun hmissing => hmissing.2.2, fun hoffers => ⟨hpackage, hnamed, hoffers⟩⟩

/-- Checking one import reports it as it should be, and keeps all answers exact. -/
theorem checkBinding_eq (hgraph : graph.WellFormed sources) {known : Known}
    (hknown : KnownExact graph table known) {file : String} {source : PointText}
    (hsource : sources.find? file = some source) (dependencies : OrderedMap String String)
    (binding : Binding) :
    ∃ known', KnownExact graph table known' ∧
      checkBinding graph table sources known file dependencies binding =
        .ok (known', graph.bindingReport table file source.toText dependencies binding) := by
  cases htarget : dependencies.find? binding.specifier with
  | none => exact ⟨known, hknown, by simp only [checkBinding, bindingReport, htarget]⟩
  | some target =>
      by_cases hdefault : (ModuleId.packageOf? target).isSome = true ∧ binding.name = "default"
      · have hmissing : ¬graph.Missing table target binding.name := by
          obtain ⟨specifier, hspecifier⟩ := Option.isSome_iff_exists.1 hdefault.1
          exact fun h =>
            h.1 ⟨⟨specifier, ModuleId.packageOf?_eq_some_iff.1 hspecifier⟩, hdefault.2⟩
        refine ⟨known, hknown, ?_⟩
        simp only [checkBinding, bindingReport, htarget, if_pos hdefault, if_neg hmissing]
      · obtain ⟨found, heq, hsettles, hknown'⟩ := exportsOf_exact hgraph hknown target
        refine ⟨(target, found) :: known, hknown', ?_⟩
        simp only [checkBinding, bindingReport, htarget, if_neg hdefault, heq, bind, Except.bind]
        cases found with
        | none =>
            have hmissing : ¬graph.Missing table target binding.name := fun h =>
              settles_none_iff.1 hsettles h.2.1
            simp only [if_neg hmissing, pure, Except.pure]
        | some names =>
            have hmissing := missing_iff_of_settles hdefault hsettles
            by_cases hmem : binding.name ∈ names
            · simp [hmem, hmissing, pure, Except.pure]
            · simp [hmem, hmissing, hsource, pure, Except.pure]

/-- The check of a file's bindings reports what reachability says, and what it has learnt stays
exact. -/
theorem checkBindings_eq (hgraph : graph.WellFormed sources) {known : Known}
    (hknown : KnownExact graph table known) {file : String} {source : PointText}
    (hsource : sources.find? file = some source) (dependencies : OrderedMap String String)
    (bindings : List Binding) :
    ∃ known', KnownExact graph table known' ∧
      checkBindings graph table sources known file dependencies bindings =
        .ok (known',
          bindings.flatMap (graph.bindingReport table file source.toText dependencies)) := by
  induction bindings generalizing known with
  | nil => exact ⟨known, hknown, rfl⟩
  | cons binding bindings ih =>
      obtain ⟨known', hknown', heq⟩ :=
        checkBinding_eq hgraph hknown hsource dependencies binding
      obtain ⟨known'', hknown'', heqs⟩ := ih hknown'
      refine ⟨known'', hknown'', ?_⟩
      simp [checkBindings, heq, heqs, bind, Except.bind, pure, Except.pure]

/-- The check of all files reports what reachability says, file by file. -/
theorem checkFiles_eq (hgraph : graph.WellFormed sources) {known : Known}
    (hknown : KnownExact graph table known) (files : List (String × BuiltFile))
    (hfiles : ∀ file ∈ files, graph.builds.find? file.1 = some file.2) :
    checkFiles graph table sources known files =
      .ok (files.flatMap fun file => graph.fileReport table sources file.1 file.2) := by
  induction files generalizing known with
  | nil => rfl
  | cons file files ih =>
      obtain ⟨id, build⟩ := file
      obtain ⟨_, hcontains, m, hmodule, _⟩ := hgraph id build (hfiles _ List.mem_cons_self)
      obtain ⟨source, hsource⟩ := OrderedMap.contains_eq_true_iff.1 hcontains
      obtain ⟨known', hknown', heq⟩ :=
        checkBindings_eq hgraph hknown hsource m.dependencies build.bindings
      have hrest := ih hknown' fun other hother => hfiles other (List.mem_cons_of_mem _ hother)
      simp [checkFiles, hmodule, heq, hrest, fileReport, hsource, bind, Except.bind, pure,
        Except.pure]

end ExportCheck

/-- The export check reports exactly the imports of missing names, one diagnostic for each, in the
order of files and then of imports. -/
theorem ModuleGraph.missingExports_eq (graph : ModuleGraph) (table : ExportTable)
    (sources : SourceTable) (hgraph : graph.WellFormed sources) :
    graph.missingExports table sources =
      .ok (graph.builds.entries.flatMap fun file =>
        graph.fileReport table sources file.1 file.2) := by
  refine ExportCheck.checkFiles_eq hgraph ?_ graph.builds.entries ?_
  · intro id found hlookup
    exact nomatch hlookup
  · rintro ⟨id, build⟩ hmem
    exact OrderedMap.mem_entries_iff.1 hmem

/-! ## Two files that export everything of each other -/

/-- Two files export everything of each other, and the first imports a name that neither has. -/
def starRing : ModuleGraph where
  modules := OrderedMap.ofList
    [("/a.ts", ⟨"/a.ts", "", OrderedMap.ofList [("./b", "/b.ts")]⟩),
     ("/b.ts", ⟨"/b.ts", "", OrderedMap.ofList [("./a", "/a.ts")]⟩)]
  builds := OrderedMap.ofList
    [("/a.ts", ⟨"", ["./b"], some ["a", "default"], [⟨"./b", "b"⟩, ⟨"./b", "c"⟩], ["./b"]⟩),
     ("/b.ts", ⟨"", ["./a"], some ["b"], [⟨"./a", "b"⟩], ["./a"]⟩)]
  packageExports := OrderedMap.empty

/-- The sources of the two files. -/
def starRingSources : SourceTable :=
  OrderedMap.ofList
    [("/a.ts", .ofString "export * from \"./b\";"), ("/b.ts", .ofString "export * from \"./a\";")]

theorem starRing_wellFormed : starRing.WellFormed starRingSources := by
  intro id build hbuild
  have hmem : (id, build) ∈ starRing.builds.entries := OrderedMap.mem_entries_iff.2 hbuild
  rcases List.mem_cons.1 hmem with heq | hmem
  · cases heq
    exact ⟨by decide +kernel, by decide, _, rfl, by decide⟩
  · cases List.mem_singleton.1 hmem
    exact ⟨by decide +kernel, by decide, _, rfl, by decide⟩

/-- On a ring of star exports the search ends and reports by reachability. -/
theorem missingExports_starRing :
    starRing.WellFormed starRingSources ∧
      starRing.missingExports OrderedMap.empty starRingSources =
        .ok (starRing.builds.entries.flatMap fun file =>
          starRing.fileReport OrderedMap.empty starRingSources file.1 file.2) :=
  ⟨starRing_wellFormed, starRing.missingExports_eq _ _ starRing_wellFormed⟩

end VideoBundle
