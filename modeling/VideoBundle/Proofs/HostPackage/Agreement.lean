import VideoBundle.HostPackage.Discovery
import VideoBundle.Proofs.HostPackage.Getters
import VideoBundle.Proofs.Json.Limits
import VideoBundle.Proofs.Module.HostImports

/-!
# The export check and the getters agree

Two parts of the program work out which names a host package exports.  The export check takes the names
of the export table; a forwarding module filters them once more before it writes them down for its
getters.  The table holds usable names in order, which the filter leaves as they are, and so the two
agree.

Main results:

- `forwards_resolve_iff`: the names that have getters.
- `checkBinding_iff_forwards`: an import passes exactly when its name has a getter.
- `table_getters`: this holds whatever comes of asking the packages for their names.
-/

namespace VideoBundle

/-! ## Names with getters -/

/-- The names for which the forwarding module of a package in a table makes getters. -/
def ExportTable.getters? (table : ExportTable) (package : HostPackage) : Option (List String) :=
  (table.find? package).bind fun names =>
    HostPackage.getters? (HostPackage.forwarder package.specifier names)

/-- The forwarding module of a package in a table makes a getter for a name. -/
def ExportTable.Forwards (table : ExportTable) (package : HostPackage) (name : String) : Prop :=
  ∃ getters, table.getters? package = some getters ∧ name ∈ getters

namespace ExportTable

variable {graph : ModuleGraph} {sources : SourceTable}

/-- The shim of a resolved package has a getter for the default export and for each name. -/
theorem getters?_resolve (found : ExportTable) (package : HostPackage) :
    (resolve found).getters? package = some ("default" :: resolvedNames found package) := by
  rw [getters?, find?_resolve, Option.bind_some, HostPackage.getters?_forwarder,
    HostPackage.forwardedNames, resolvedNames, usableNames_usableNames]

/-- A resolved table's forwarding modules make getters for `default` and the names in the table. -/
theorem forwards_resolve_iff {found : ExportTable} {package : HostPackage} {name : String} :
    (resolve found).Forwards package name ↔ name ∈ "default" :: resolvedNames found package := by
  simp [Forwards, getters?_resolve]

/-- An import from a host package passes the check exactly when the name has a getter. -/
theorem checkBinding_iff_forwards (found : ExportTable) {known : ExportCheck.Known}
    {package : HostPackage} {file : String} {dependencies : OrderedMap String String}
    {binding : Binding}
    (htarget : dependencies.find? binding.specifier = some (ModuleId.host package.specifier)) :
    (∃ known', ExportCheck.checkBinding graph (resolve found) sources known file dependencies binding =
        .ok (known', [])) ↔ (resolve found).Forwards package binding.name := by
  rw [forwards_resolve_iff]
  exact ExportCheck.checkBinding_host_iff (find?_resolve found package) htarget

/-- Every import from a host package in a graph that passes the check has a getter. -/
theorem forwards_of_missingExports {found : ExportTable}
    (h : graph.missingExports (resolve found) sources = .ok []) {package : HostPackage} {name : String}
    (himport : graph.ImportsFromHost package name) : (resolve found).Forwards package name := by
  obtain ⟨file, build, m, binding, hfile, hm, hbinding, htarget, rfl⟩ := himport
  obtain ⟨m', hm', hpassed⟩ := ExportCheck.exists_checkBinding_of_checkFiles h hfile
  rw [hm] at hm'
  cases hm'
  obtain ⟨seen, hseen⟩ := hpassed binding hbinding
  exact (checkBinding_iff_forwards found htarget).1 hseen

/-- A graph that imports from host packages alone, and only names that have getters, passes the
check. -/
theorem missingExports_eq_nil {found : ExportTable} (honly : graph.IsHostOnly)
    (himports : ∀ package name, graph.ImportsFromHost package name →
      (resolve found).Forwards package name) :
    graph.missingExports (resolve found) sources = .ok [] := by
  refine ExportCheck.checkFiles_eq_nil_of_forall ?_ []
  rintro ⟨file, build⟩ hfile
  obtain ⟨m, hm, htargets⟩ := honly (file, build) hfile
  refine ⟨m, hm, fun binding hbinding seen => ?_⟩
  cases htarget : m.dependencies.find? binding.specifier with
  | none => exact ⟨seen, by rw [ExportCheck.checkBinding, htarget]⟩
  | some target =>
      obtain ⟨package, rfl⟩ := htargets binding hbinding target htarget
      exact (checkBinding_iff_forwards found htarget).2
        (himports package binding.name ⟨file, build, m, binding, hfile, hm, hbinding, htarget, rfl⟩)

end ExportTable

namespace Discovery

/-- What a run has printed can be displayed, so that every name in it has a text. -/
theorem isWritable_of_answer {run : DiscoveryRun} {v : Value String} (h : answer run = .ok v) :
    v.isWritable = true := by
  cases run with
  | notStarted problem | failed problem => cases h
  | finished output =>
      rw [answer, lastValue] at h
      split at h
      · cases h
      · split at h
        · rename_i hdecode
          cases h
          exact Json.isWritable_of_decode hdecode
        · cases h

/-- Whatever comes of asking the packages for their names, there is a table of all packages in their
order, with usable names that increase strictly, and resolving it again leaves it as it is.  An import
from a host package passes the export check under this table exactly when the package's forwarding
module makes a getter for the name; so do all imports of a graph that imports from host packages
alone. -/
theorem table_getters (run : DiscoveryRun) :
    let table := (ofRun run).table
    (∀ v, answer run = .ok v → v.isWritable = true) ∧
      table.keys = HostPackage.all ∧
      (∀ package names, table.find? package = some names →
        names.Pairwise (· < ·) ∧ "default" ∉ names) ∧
      ExportTable.resolve table = table ∧
      (∀ package, (table.getters? package).isSome = true) ∧
      ∀ graph sources,
        (∀ package known file dependencies (binding : Binding),
          dependencies.find? binding.specifier = some (ModuleId.host package.specifier) →
            ((∃ known', ExportCheck.checkBinding graph table sources known file dependencies binding =
              .ok (known', [])) ↔ table.Forwards package binding.name)) ∧
          (graph.missingExports table sources = .ok [] →
            ∀ package name, graph.ImportsFromHost package name → table.Forwards package name) ∧
          (graph.IsHostOnly →
            (∀ package name, graph.ImportsFromHost package name → table.Forwards package name) →
              graph.missingExports table sources = .ok []) := by
  refine ⟨fun v hv => isWritable_of_answer hv, ExportTable.keys_resolve _, fun package names hfind => ?_,
    ExportTable.resolve_resolve _, fun package => ?_, fun graph sources => ⟨?_, ?_, ?_⟩⟩
  · rw [table, ExportTable.find?_resolve] at hfind
    cases hfind
    exact ⟨pairwise_usableNames _, default_not_mem_usableNames _⟩
  · rw [table, ExportTable.getters?_resolve]
    rfl
  · intro package known file dependencies binding htarget
    exact ExportTable.checkBinding_iff_forwards _ htarget
  · intro h package name himport
    exact ExportTable.forwards_of_missingExports h himport
  · intro honly himports
    exact ExportTable.missingExports_eq_nil honly himports

/-- A run that prints a line of its own, and then names of which some are not usable. -/
def printedRun : DiscoveryRun :=
  .finished "loading\n\x7b\"react\": [\"b\", \"default\", \"a\", \"a\", 3], \"remotion\": null\x7d\n"

/-- A graph of one file that imports a name from `react`. -/
def importingFromReact (name : String) : ModuleGraph where
  modules := OrderedMap.ofList
    [("/a.ts", ⟨"/a.ts", "", OrderedMap.ofList [("react", "runtime:react")]⟩)]
  builds := OrderedMap.ofList [("/a.ts", ⟨"", ["react"], some [], [⟨"react", name⟩], []⟩)]
  packageExports := OrderedMap.empty

theorem isHostOnly_importingFromReact (name : String) : (importingFromReact name).IsHostOnly := by
  intro entry hentry
  cases List.mem_singleton.1 hentry
  refine ⟨_, rfl, fun binding hbinding target htarget => ⟨.react, ?_⟩⟩
  cases List.mem_singleton.1 hbinding
  cases htarget
  rfl

theorem importsFromHost_importingFromReact {name other : String} {package : HostPackage} :
    (importingFromReact name).ImportsFromHost package other ↔ package = .react ∧ other = name := by
  constructor
  · rintro ⟨file, build, m, binding, hfile, hm, hbinding, htarget, rfl⟩
    cases List.mem_singleton.1 hfile
    cases hm
    cases List.mem_singleton.1 hbinding
    refine ⟨HostPackage.specifier_injective (ModuleId.host_injective ?_), rfl⟩
    exact (Option.some.inj htarget).symm
  · rintro ⟨rfl, rfl⟩
    exact ⟨"/a.ts", _, _, _, List.mem_singleton_self _, rfl, List.mem_singleton_self _, rfl, rfl⟩

/-- The shim forwards the default export and the two names that the run has printed. -/
theorem forwards_printedRun_iff {name : String} :
    (ofRun printedRun).table.Forwards .react name ↔ name = "default" ∨ name = "a" ∨ name = "b" := by
  have hanswer : answer printedRun = .ok (.object
      [("react", .list [.text "b", .text "default", .text "a", .text "a", .number (.int 3)]),
       ("remotion", .null)]) := by
    decide +kernel
  have hfound : (ofRun printedRun).found.find? .react =
      some (usableNames ["b", "default", "a", "a", "3"]) := by
    rw [ofRun, hanswer]
    rfl
  rw [table, ExportTable.forwards_resolve_iff, ExportTable.resolvedNames, hfound, Option.getD_some,
    usableNames_usableNames, List.mem_cons, mem_usableNames]
  refine or_congr_right ⟨?_, ?_⟩
  · rintro ⟨hmem, hname⟩
    simp only [List.mem_cons, List.not_mem_nil, or_false] at hmem
    rcases hmem with rfl | rfl | rfl | rfl | rfl
    · exact .inr rfl
    · exact absurd hname (by decide +kernel)
    · exact .inl rfl
    · exact .inl rfl
    · exact absurd hname (by decide +kernel)
  · rintro (rfl | rfl) <;> exact ⟨by decide, by decide +kernel⟩

/-- An import of a name that the run has printed passes, and one of a printed text that is no name does
not. -/
theorem table_getters_printedRun :
    (importingFromReact "a").missingExports (ofRun printedRun).table OrderedMap.empty = .ok [] ∧
      (importingFromReact "3").missingExports (ofRun printedRun).table OrderedMap.empty ≠ .ok [] := by
  obtain ⟨_, _, _, _, _, hchecks⟩ := table_getters printedRun
  constructor
  · refine (hchecks (importingFromReact "a") OrderedMap.empty).2.2 (isHostOnly_importingFromReact "a") ?_
    intro package name himport
    obtain ⟨rfl, rfl⟩ := importsFromHost_importingFromReact.1 himport
    exact forwards_printedRun_iff.2 (.inr (.inl rfl))
  · intro hpassed
    have hforwards := (hchecks (importingFromReact "3") OrderedMap.empty).2.1 hpassed .react "3"
      (importsFromHost_importingFromReact.2 ⟨rfl, rfl⟩)
    exact absurd (forwards_printedRun_iff.1 hforwards) (by decide)

end Discovery
end VideoBundle
