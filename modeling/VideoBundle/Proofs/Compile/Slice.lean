import VideoBundle.Proofs.Compile.Files
import VideoBundle.Proofs.Walk.Slice

/-!
# What a bundle depends on

A bundle depends on the texts of the reached files under their canonical paths, and on nothing else of
the files that are given: neither on the order and the spelling of their paths, nor on files that the
entry file does not reach.

Main results:

- `compileProject_slice`: a slice of a project compiles as the project does, or fails as it does.
- `compileFiles_linked`: the files that are linked in a bundle make this bundle alone.
- `compileFiles_congr`: files with the same texts under the same canonical paths compile to
  the same bundle, or fail with the same error.
-/

namespace VideoBundle

/-! ## The export check -/

namespace ExportCheck

variable {graph : ModuleGraph} {table : ExportTable} {sources others : SourceTable}

/-- Checking the bindings of a file reads the source of that file only. -/
theorem checkBindings_sources {file : String} (h : others.find? file = sources.find? file)
    (known : Known) (dependencies : OrderedMap String String) (bindings : List Binding) :
    checkBindings graph table others known file dependencies bindings =
      checkBindings graph table sources known file dependencies bindings := by
  induction bindings generalizing known with
  | nil => rfl
  | cons binding bindings ih => simp only [checkBindings, checkBinding, h, ih]

/-- Checking files reads the sources of those files only. -/
theorem checkFiles_sources {files : List (String × BuiltFile)}
    (h : ∀ file ∈ files, others.find? file.1 = sources.find? file.1) (known : Known) :
    checkFiles graph table others known files = checkFiles graph table sources known files := by
  induction files generalizing known with
  | nil => rfl
  | cons file files ih =>
      have hfile : ∀ known dependencies,
          checkBindings graph table others known file.1 dependencies file.2.bindings =
            checkBindings graph table sources known file.1 dependencies file.2.bindings :=
        fun known dependencies =>
          checkBindings_sources (h file List.mem_cons_self) known dependencies file.2.bindings
      have hfiles := ih fun other hother => h other (List.mem_cons_of_mem _ hother)
      simp only [checkFiles, hfile, hfiles]

end ExportCheck

/-- The export check reads the sources of built files only. -/
theorem ModuleGraph.missingExports_sources {graph : ModuleGraph} {table : ExportTable}
    {sources others : SourceTable}
    (h : ∀ path, graph.builds.contains path = true → others.find? path = sources.find? path) :
    graph.missingExports table others = graph.missingExports table sources := by
  refine ExportCheck.checkFiles_sources (fun file hfile => h file.1 ?_) []
  exact OrderedMap.contains_of_find? (OrderedMap.mem_entries_iff.1 hfile)

/-! ## Files that are compiled again -/

namespace SourceTable

/-- The files of a source table whose paths are kept. -/
def filesKept (sources : SourceTable) (keep : String → Bool) : List (String × Value PointText) :=
  (sources.entries.filter fun file => keep file.1).map fun file => (file.1, .text file.2)

/-- Under canonical paths that differ, every path holds its own text. -/
theorem latest_of_canonical {τ : Type} {entries : List (String × τ)}
    (hcanonical : ∀ entry ∈ entries, Path.canonical? entry.1 = some entry.1)
    (hnodup : (entries.map Prod.fst).Nodup) (path : String) :
    latest path (entries.map fun entry => (entry.1, .text entry.2)) = lookupEntry path entries := by
  induction entries with
  | nil => rfl
  | cons entry entries ih =>
      have hentry := hcanonical entry List.mem_cons_self
      rw [List.map_cons, List.nodup_cons] at hnodup
      have hrest := ih (fun other hother => hcanonical other (List.mem_cons_of_mem _ hother)) hnodup.2
      by_cases hpath : entry.1 = path
      · subst hpath
        -- No later file overwrites the text, because the paths differ.
        have habsent := lookupEntry_eq_none_iff.2 hnodup.1
        simp [latest, hrest, hentry, habsent, lookupEntry, Value.text?]
      · simp [latest, hrest, hentry, hpath, lookupEntry]

/-- Kept files are entered under their paths, with their texts. -/
theorem exists_ofFields_filesKept {sources : SourceTable}
    (hcanonical : ∀ path, sources.contains path = true → Path.canonical? path = some path)
    (keep : String → Bool) :
    ∃ kept, ofFields (sources.filesKept keep) = .ok kept ∧
      ∀ path, kept.find? path = if keep path then sources.find? path else none := by
  have hentries : ∀ entry ∈ sources.entries.filter fun file => keep file.1,
      Path.canonical? entry.1 = some entry.1 := by
    intro entry hmem
    have hfind := OrderedMap.mem_entries_iff.1 (List.mem_filter.1 hmem).1
    exact hcanonical entry.1 (OrderedMap.contains_of_find? hfind)
  have hnodup : ((sources.entries.filter fun file => keep file.1).map Prod.fst).Nodup :=
    sources.distinctKeys.sublist (List.filter_sublist.map Prod.fst)
  have henterable : Enterable (sources.filesKept keep) := by
    intro file hmem
    obtain ⟨entry, hentry, rfl⟩ := List.mem_map.1 hmem
    exact ⟨by simp [hentries entry hentry], rfl⟩
  obtain ⟨kept, hkept⟩ := isOk_ofFields_iff.2 henterable
  refine ⟨kept, hkept, fun path => ?_⟩
  have hsource : (FileText.source : PointText → PointText) = id := rfl
  rw [find?_ofFields hkept, filesKept, latest_of_canonical hentries hnodup, lookupEntry_filter,
    hsource, Option.map_id]
  rfl

end SourceTable

/-! ## Slices -/

/-- The files that are linked are a slice of the project. -/
theorem Walk.LinkedTable.slice {p : Walk.Project} {graph : ModuleGraph} {calls : List BundlerCall}
    (h : Walk.LinkedTable p graph calls) {kept : SourceTable}
    (hfind : ∀ path, kept.find? path =
      if graph.modules.contains path then p.sources.find? path else none) :
    Walk.Slice p kept := by
  constructor
  · intro path hreached
    have hlinked := ((h.files path).2 hreached).1
    rw [hfind, if_pos hlinked]
  · intro path hpath
    rw [OrderedMap.contains, hfind] at hpath
    split at hpath
    · exact hpath
    · simp at hpath

namespace Compile

variable {σ τ : Type} [FileText σ] [FileText τ] {c : Compiler} {p : Walk.Project}
  {sources : SourceTable}

/-- A slice of a project compiles as the project does, or fails as it does. -/
theorem compileProject_slice (h : Walk.Slice p sources) (hrooted : p.Rooted) :
    compileProject (p.withSources sources) = compileProject p := by
  simp only [compileProject, h.run hrooted]
  cases hrun : Walk.run p with
  | error e => rfl
  | ok found =>
      obtain ⟨graph, calls⟩ := found
      have hlinked := Walk.run_linkedTable hrooted hrun
      have hmissing : graph.missingExports p.table sources =
          graph.missingExports p.table p.sources :=
        ModuleGraph.missingExports_sources fun path hpath =>
          h.reached path ((hlinked.builds path).1 hpath)
      have hfinish : finish (p.withSources sources) graph = finish p graph := by
        simp only [finish, Walk.Project.withSources, hmissing]
      simp only [hfinish]

/-- The files that are linked in a bundle make the same bundle alone. -/
theorem compileFiles_linked {files : List (String × Value τ)} {entryFile : String} {compiled : Compiled}
    (h : compileFiles c files entryFile = .ok compiled) :
    ∃ sources, SourceTable.ofFields files = .ok sources ∧
      compileFiles c (sources.filesKept compiled.graph.modules.contains) entryFile =
        .ok compiled := by
  obtain ⟨sources, entry, hsources, hentry, hcontains, hproject⟩ := compileFiles_eq_ok h
  have hrooted : (Walk.Project.mk sources entry c.bundler c.table).Rooted :=
    rooted_of_ofFields hsources hcontains
  have hlinked := Walk.run_linkedTable hrooted (compileProject_eq_ok hproject).1
  obtain ⟨kept, hkept, hfind⟩ := SourceTable.exists_ofFields_filesKept
    (fun path hpath => SourceTable.canonical?_of_contains hsources hpath)
    compiled.graph.modules.contains
  have hslice := hlinked.slice hfind
  have hentryKept : kept.contains entry = true := hslice.contains hrooted .entry
  have hsame := compileProject_slice hslice hrooted
  refine ⟨sources, hsources, ?_⟩
  calc
    compileFiles c (sources.filesKept compiled.graph.modules.contains) entryFile
        = compileProject ⟨kept, entry, c.bundler, c.table⟩ :=
          compileFiles_eq hkept hentry hentryKept
    _ = compileProject ⟨sources, entry, c.bundler, c.table⟩ := hsame
    _ = .ok compiled := hproject

/-- Two files that import each other, and two that nobody imports, although one of them would be tried
as well. -/
def wideFiles : Fields :=
  [("/b.jsx", .text "never;"), ("a.ts", .text "a;"), ("c.ts", .text "c;"), ("/b.ts", .text "b;")]

theorem exists_compileFiles_wide :
    ∃ compiled, compileFiles ringCompiler wideFiles "/./a.ts" = .ok compiled := by
  have hok : (compileFiles ringCompiler wideFiles "/./a.ts").toBool = true := by decide +kernel
  cases h : compileFiles ringCompiler wideFiles "/./a.ts" with
  | error e => simp [h, Except.toBool] at hok
  | ok compiled => exact ⟨compiled, rfl⟩

/-- The wide project compiles to the same from the files that it links. -/
theorem compileFiles_linked_wide :
    ∃ compiled, compileFiles ringCompiler wideFiles "/./a.ts" = .ok compiled ∧
      ∃ sources, SourceTable.ofFields wideFiles = .ok sources ∧
        compileFiles ringCompiler (sources.filesKept compiled.graph.modules.contains) "/./a.ts" =
          .ok compiled := by
  obtain ⟨compiled, h⟩ := exists_compileFiles_wide
  exact ⟨compiled, h, compileFiles_linked h⟩

/-! ## Spellings -/

/-- Files with the same texts under the same canonical paths, in whatever order and spelling, have the
same modules and bundle, or fail with the same error. -/
theorem compileFiles_congr {files : List (String × Value σ)} {others : List (String × Value τ)}
    {sources table : SourceTable} {entryFile otherEntry : String}
    (hfiles : SourceTable.ofFields files = .ok sources)
    (hothers : SourceTable.ofFields others = .ok table)
    (hsame : ∀ path, table.find? path = sources.find? path)
    (hentry : Path.canonical otherEntry = Path.canonical entryFile) :
    compileFiles c others otherEntry = compileFiles c files entryFile := by
  have hcontains : ∀ path, table.contains path = sources.contains path := by
    intro path
    rw [OrderedMap.contains, OrderedMap.contains, hsame]
  have hlisted : sortTexts table.keys = sortTexts sources.keys :=
    sortTexts_eq_of_perm (OrderedMap.keys_perm_of_find?_eq hsame)
  simp only [compileFiles, hfiles, hothers, project, hentry, hcontains, hlisted]
  cases Path.canonical entryFile with
  | error e => rfl
  | ok entry =>
      by_cases hknown : sources.contains entry = true
      · have hslice : Walk.Slice ⟨sources, entry, c.bundler, c.table⟩ table :=
          ⟨fun path _ => hsame path, fun path hpath => hcontains path ▸ hpath⟩
        have hsame := compileProject_slice hslice (rooted_of_ofFields hfiles hknown)
        simp only [hknown, if_true]
        exact hsame
      · simp [hknown]

/-- The files of the ring under other spellings, and an old text of one of them. -/
def respelledFiles : Fields :=
  [("/b.ts", .text "b;"), ("\\a.ts", .text "old;"), ("/x/../a.ts", .text "a;")]

/-- Other spellings of the same files and of the entry give the same compilation. -/
theorem compileFiles_respelled :
    ∃ sources table, SourceTable.ofFields ringFiles = .ok sources ∧
      SourceTable.ofFields respelledFiles = .ok table ∧
        (∀ path, table.find? path = sources.find? path) ∧
          Path.canonical "a.ts" = Path.canonical "/./a.ts" ∧
            compileFiles ringCompiler respelledFiles "a.ts" =
              compileFiles ringCompiler ringFiles "/./a.ts" := by
  have hfirst : Path.canonical? "a.ts" = some "/a.ts" := by decide +kernel
  have hsecond : Path.canonical? "/b.ts" = some "/b.ts" := by decide +kernel
  have hold : Path.canonical? "\\a.ts" = some "/a.ts" := by decide +kernel
  have hnew : Path.canonical? "/x/../a.ts" = some "/a.ts" := by decide +kernel
  obtain ⟨sources, hsources⟩ := SourceTable.isOk_ofFields_iff.2
    (show SourceTable.Enterable ringFiles from by decide +kernel)
  obtain ⟨table, htable⟩ := SourceTable.isOk_ofFields_iff.2
    (show SourceTable.Enterable respelledFiles from by decide +kernel)
  have hsame : ∀ path, table.find? path = sources.find? path := by
    intro path
    rw [SourceTable.find?_ofFields hsources, SourceTable.find?_ofFields htable]
    by_cases ha : "/a.ts" = path
    · subst ha
      simp [ringFiles, respelledFiles, SourceTable.latest, Value.text?, hfirst, hsecond, hold, hnew]
    · simp [ringFiles, respelledFiles, SourceTable.latest, hfirst, hsecond, hold, hnew, ha]
  have hentry : Path.canonical "a.ts" = Path.canonical "/./a.ts" := by decide +kernel
  exact ⟨sources, table, hsources, htable, hsame, hentry,
    compileFiles_congr hsources htable hsame hentry⟩

end Compile
end VideoBundle
