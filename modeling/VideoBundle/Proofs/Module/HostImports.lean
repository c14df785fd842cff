import VideoBundle.Module.ExportCheck
import VideoBundle.Proofs.Module.Identifiers
import VideoBundle.Proofs.Outcomes

/-!
# Imports from host packages

The export check knows the names of host packages from the export table, and needs nothing of the graph
to check an import from one.

Main results:

- `checkBinding_host_iff`: which imports from a host package pass.
- `exists_checkBinding_of_checkFiles`: a check that reports nothing has passed every import.
- `checkFiles_eq_nil_of_forall`: a check reports nothing when every import passes.
-/

namespace VideoBundle

namespace ModuleGraph

/-- A file of a graph imports a name from a host package. -/
def ImportsFromHost (graph : ModuleGraph) (package : HostPackage) (name : String) : Prop :=
  ∃ file build m binding, (file, build) ∈ graph.builds.entries ∧
    graph.modules.find? file = some m ∧ binding ∈ build.bindings ∧
      m.dependencies.find? binding.specifier = some (ModuleId.host package.specifier) ∧
        binding.name = name

/-- The imports of a graph's files lead to host packages, or nowhere. -/
def IsHostOnly (graph : ModuleGraph) : Prop :=
  ∀ entry ∈ graph.builds.entries, ∃ m, graph.modules.find? entry.1 = some m ∧
    ∀ binding ∈ entry.2.bindings, ∀ target, m.dependencies.find? binding.specifier = some target →
      ∃ package : HostPackage, target = ModuleId.host package.specifier

end ModuleGraph

namespace ExportCheck

variable {graph : ModuleGraph} {table : ExportTable} {sources : SourceTable} {known : Known}
  {package : HostPackage} {names : List String}

/-- The row of a host package, with the default export in front. -/
theorem lookup_hostExports (table : ExportTable) (package : HostPackage) :
    (hostExports table).lookup (ModuleId.host package.specifier) =
      (table.find? package).map ("default" :: ·) := by
  rw [hostExports, OrderedMap.find?]
  induction table.entries with
  | nil => rfl
  | cons entry entries ih =>
      obtain ⟨other, own⟩ := entry
      rw [List.map_cons, List.lookup_cons, lookupEntry, ih]
      by_cases hother : other = package
      · simp [hother]
      · have hid : ModuleId.host package.specifier ≠ ModuleId.host other.specifier := fun heq =>
          hother (HostPackage.specifier_injective (ModuleId.host_injective heq)).symm
        simp [hother, beq_false_of_ne hid]

/-- An import from a host package passes the check exactly when it names `default` or a name in the
table, whatever else the check has seen. -/
theorem checkBinding_host_iff (hfind : table.find? package = some names) {file : String}
    {dependencies : OrderedMap String String} {binding : Binding}
    (htarget : dependencies.find? binding.specifier = some (ModuleId.host package.specifier)) :
    (∃ known', checkBinding graph table sources known file dependencies binding = .ok (known', [])) ↔
      binding.name ∈ "default" :: names := by
  have hexports : exportsOf graph table known (fuelFor graph) [] (ModuleId.host package.specifier) =
      .ok (some ("default" :: names)) := by
    rw [fuelFor, exportsOf, lookup_hostExports, hfind]
    rfl
  simp only [checkBinding, htarget, ModuleId.packageOf?_host, hexports, bind, Except.bind]
  by_cases hmem : binding.name ∈ "default" :: names
  · simp [hmem, pure, Except.pure]
  · cases sources.find? file <;> simp [hmem, pure, Except.pure, throw, throwThe, MonadExceptOf.throw]

/-- A check that reports nothing has passed every import. -/
theorem exists_checkBinding_of_checkBindings {file : String}
    {dependencies : OrderedMap String String} {bindings : List Binding} {known' : Known}
    (h : checkBindings graph table sources known file dependencies bindings = .ok (known', []))
    {binding : Binding} (hmem : binding ∈ bindings) :
    ∃ seen seen', checkBinding graph table sources seen file dependencies binding = .ok (seen', []) := by
  induction bindings generalizing known known' with
  | nil => cases hmem
  | cons first bindings ih =>
      obtain ⟨⟨seen, found⟩, hfirst, h⟩ := bind_eq_ok_iff.1 h
      obtain ⟨⟨seen', more⟩, hrest, h⟩ := bind_eq_ok_iff.1 h
      simp only [pure, Except.pure, Except.ok.injEq, Prod.mk.injEq, List.append_eq_nil_iff] at h
      obtain ⟨_, rfl, rfl⟩ := h
      rcases List.mem_cons.1 hmem with rfl | hmem
      · exact ⟨known, seen, hfirst⟩
      · exact ih hrest hmem

/-- If no name is missing anywhere, each binding of each file was checked without a report. -/
theorem exists_checkBinding_of_checkFiles {files : List (String × BuiltFile)}
    (h : checkFiles graph table sources known files = .ok []) {file : String} {build : BuiltFile}
    (hfile : (file, build) ∈ files) :
    ∃ m, graph.modules.find? file = some m ∧ ∀ binding ∈ build.bindings,
      ∃ seen seen', checkBinding graph table sources seen file m.dependencies binding =
        .ok (seen', []) := by
  induction files generalizing known with
  | nil => cases hfile
  | cons first files ih =>
      obtain ⟨firstFile, firstBuild⟩ := first
      rw [checkFiles] at h
      cases hm : graph.modules.find? firstFile with
      | none => simp [hm] at h
      | some m =>
          rw [hm] at h
          obtain ⟨⟨seen, found⟩, hfirst, h⟩ := bind_eq_ok_iff.1 h
          obtain ⟨more, hrest, h⟩ := bind_eq_ok_iff.1 h
          simp only [pure, Except.pure, Except.ok.injEq, List.append_eq_nil_iff] at h
          obtain ⟨rfl, rfl⟩ := h
          rcases List.mem_cons.1 hfile with heq | hfile
          · cases heq
            exact ⟨m, hm, fun binding hmem => exists_checkBinding_of_checkBindings hfirst hmem⟩
          · exact ih hrest hfile

/-- A check reports nothing when every import passes in every state of the check. -/
theorem exists_checkBindings_of_forall {file : String} {dependencies : OrderedMap String String}
    {bindings : List Binding}
    (h : ∀ binding ∈ bindings, ∀ seen, ∃ seen',
      checkBinding graph table sources seen file dependencies binding = .ok (seen', []))
    (known : Known) :
    ∃ known', checkBindings graph table sources known file dependencies bindings =
      .ok (known', []) := by
  induction bindings generalizing known with
  | nil => exact ⟨known, rfl⟩
  | cons first bindings ih =>
      rw [List.forall_mem_cons] at h
      obtain ⟨seen, hfirst⟩ := h.1 known
      obtain ⟨known', hrest⟩ := ih h.2 seen
      exact ⟨known', by simp [checkBindings, hfirst, hrest, bind, Except.bind, pure, Except.pure]⟩

/-- If each binding can be checked without a report, no name is missing. -/
theorem checkFiles_eq_nil_of_forall {files : List (String × BuiltFile)}
    (h : ∀ entry ∈ files, ∃ m, graph.modules.find? entry.1 = some m ∧
      ∀ binding ∈ entry.2.bindings, ∀ seen, ∃ seen',
        checkBinding graph table sources seen entry.1 m.dependencies binding = .ok (seen', []))
    (known : Known) : checkFiles graph table sources known files = .ok [] := by
  induction files generalizing known with
  | nil => rfl
  | cons first files ih =>
      rw [List.forall_mem_cons] at h
      obtain ⟨⟨m, hm, hbindings⟩, hfiles⟩ := h
      obtain ⟨seen, hfirst⟩ := exists_checkBindings_of_forall hbindings known
      simp [checkFiles, hm, hfirst, ih hfiles seen, bind, Except.bind, pure, Except.pure]

end ExportCheck

end VideoBundle
