import VideoBundle.Proofs.Compile.Files
import VideoBundle.Proofs.Module.MissingExports
import VideoBundle.Proofs.Walk.Failures

/-!
# Compiles report their failures

Some look-ups of a compile have no answer for a key that is not there: the text of a file to be built
or shown, the module of a built file, the target of an import, the names of a host package.  The walk
sees to it that they find something, whatever the bundler answers, as long as the bundler itself fails
only with errors that it reports.  Only the message about an entry file that is no text can fail.

Main results:

- `Walk.run_eq_error`: a walk that fails reports an error.
- `LinkedTable.wellFormed`: the modules that a walk finds have all that the export check looks up.
- `compileEntry_reports_iff`: when files are compiled or an error is reported.
-/

namespace VideoBundle

/-- A bundler that fails only with errors that it reports. -/
structure Bundler.Reports (b : Bundler) : Prop where
  transform : ∀ source loader path f, b.transform source loader path ≠ .error (.fault f)
  packages : ∀ specifiers externals f, b.bundlePackages specifiers externals ≠ .error (.fault f)

/-- A bundler that lists the modules of which a file exports everything among its imports. -/
def Bundler.ListsStarSources (b : Bundler) : Prop :=
  ∀ source loader path build, b.transform source loader path = .ok build →
    build.starSources ⊆ build.imports

/-- A failure that is reported as an error. -/
def CompileFailure.Reported (failure : CompileFailure) : Prop :=
  ∃ e, failure = .error e

namespace Walk

variable {p : Project} {path : String}

/-! ## The walk -/

/-- A file with a text is built, or an error is reported. -/
theorem buildFile_eq_error (hreports : p.bundler.Reports) (hsource : p.sources.contains path = true)
    {failure : CompileFailure} (h : buildFile p path = .error failure) : failure.Reported := by
  obtain ⟨source, hfind⟩ := OrderedMap.contains_eq_true_iff.1 hsource
  unfold buildFile at h
  rw [hfind] at h
  dsimp only at h
  split at h
  · split at h
    · simp at h
    · exact ⟨_, by simpa using h.symm⟩
  · simp at h
  · simp at h
  · split at h
    · simp at h
    · exact ⟨_, by simpa using h.symm⟩
    · rename_i f htransform
      exact absurd htransform (hreports.transform source.toText _ path f)

/-- What can go wrong with one file is reported to the user. -/
theorem FileFailure.reported (hrooted : p.Rooted) (hreports : p.bundler.Reports)
    {failure : CompileFailure} (h : FileFailure p failure) : failure.Reported := by
  cases h with
  | unbuilt hreached hbuild => exact buildFile_eq_error hreports (hreached.contains hrooted) hbuild
  | unresolved hreached himport hresolve => exact ⟨_, rfl⟩

/-- A walk that fails reports an error. -/
theorem run_eq_error (hrooted : p.Rooted) (htable : p.table.Complete)
    (hreports : p.bundler.Reports) {failure : CompileFailure} (h : run p = .error failure) :
    failure.Reported := by
  unfold run at h
  split at h
  · rename_i failure' hwalk
    cases h
    have hfile := Invariant.generations_eq_error hrooted htable (.start hrooted) hwalk
    exact hfile.reported hrooted hreports
  · rename_i found _
    rcases addPackages_eq_error htable h with ⟨failure', hbundle, rfl⟩ | ⟨specifier, rfl⟩
    · cases failure' with
      | error e => exact ⟨_, rfl⟩
      | fault f => exact absurd hbundle (hreports.packages _ _ f)
    · exact ⟨_, rfl⟩

/-! ## The modules -/

/-- The modules of which a file exports everything are among its imports. -/
theorem starSources_subset_of_buildFile (hstars : p.bundler.ListsStarSources) {build : BuiltFile}
    {calls : List BundlerCall} (h : buildFile p path = .ok (build, calls)) :
    build.starSources ⊆ build.imports := by
  unfold buildFile at h
  split at h
  · simp at h
  · split at h
    · split at h
      · cases h
        exact List.nil_subset _
      · simp at h
    · cases h
      exact List.nil_subset _
    · cases h
      exact List.nil_subset _
    · split at h
      · rename_i htransform
        cases h
        exact hstars _ _ _ _ htransform
      · simp at h
      · simp at h

variable {graph : ModuleGraph} {calls : List BundlerCall}

/-- The modules that a walk finds have all that the export check looks up. -/
theorem LinkedTable.wellFormed (h : LinkedTable p graph calls) (hrooted : p.Rooted)
    (hcanonical : ∀ path, p.sources.contains path = true → Path.canonical? path = some path)
    (hstars : p.bundler.ListsStarSources) : graph.WellFormed p.sources := by
  intro path build hfind
  -- Star sources are looked up among dependencies, and those are the imports.
  obtain ⟨⟨calls', hbuild⟩, m, hmodule, himports⟩ := h.imports path build hfind
  have hreached : ReachedFile p path := (h.builds path).1 (OrderedMap.contains_of_find? hfind)
  have hsource := hreached.contains hrooted
  have hsubset := starSources_subset_of_buildFile hstars hbuild
  refine ⟨hcanonical path hsource, hsource, m, hmodule, fun specifier hmem => ?_⟩
  exact himports specifier (hsubset hmem)

/-- The entry file has a module. -/
theorem LinkedTable.exists_entryModule (h : LinkedTable p graph calls) :
    ∃ m, graph.modules.find? p.entry = some m := by
  have hcontains := ((h.files p.entry).2 .entry).1
  exact OrderedMap.contains_eq_true_iff.1 hcontains

end Walk

/-! ## Compiles -/

/-- The export check of modules that have all that it looks up ends with a report. -/
theorem ModuleGraph.exists_missingExports {graph : ModuleGraph} {sources : SourceTable}
    (h : graph.WellFormed sources) (table : ExportTable) :
    ∃ missing, graph.missingExports table sources = .ok missing := by
  refine ⟨_, ExportCheck.checkFiles_eq h ?_ graph.builds.entries ?_⟩
  · exact fun _ _ hlookup => nomatch hlookup
  · exact fun _ hmem => OrderedMap.mem_entries_iff.1 hmem

namespace Compile

variable {c : Compiler} {p : Walk.Project} {graph : ModuleGraph}

/-- The last checks report an error, unless the entry file has no module or the export check ends
without a report. -/
theorem finish_eq_error (hentry : ∃ m, graph.modules.find? p.entry = some m)
    (hmissing : ∃ missing, graph.missingExports p.table p.sources = .ok missing)
    {failure : CompileFailure} (h : finish p graph = .error failure) : failure.Reported := by
  obtain ⟨m, hm⟩ := hentry
  obtain ⟨missing, hmissing⟩ := hmissing
  simp only [finish, entryCode, hm, hmissing] at h
  split at h
  · exact ⟨_, by simpa using h.symm⟩
  · cases missing with
    | nil => simp at h
    | cons diagnostic missing => exact ⟨_, by simpa using h.symm⟩

/-- A project is compiled, or an error is reported. -/
theorem compileProject_eq_error (hrooted : p.Rooted)
    (hcanonical : ∀ path, p.sources.contains path = true → Path.canonical? path = some path)
    (htable : p.table.Complete) (hreports : p.bundler.Reports) (hstars : p.bundler.ListsStarSources)
    {failure : CompileFailure} (h : compileProject p = .error failure) : failure.Reported := by
  unfold compileProject at h
  split at h
  · rename_i failure' hrun
    cases h
    exact Walk.run_eq_error hrooted htable hreports hrun
  · rename_i graph calls hrun
    have hlinked := Walk.run_linkedTable hrooted hrun
    have hgraph := hlinked.wellFormed hrooted hcanonical hstars
    cases hfinish : finish p graph with
    | ok text => simp [hfinish, Except.map] at h
    | error failure' =>
        have hreported := finish_eq_error hlinked.exists_entryModule
          (ModuleGraph.exists_missingExports hgraph p.table) hfinish
        simp only [hfinish, Except.map, Except.error.injEq] at h
        exact h ▸ hreported

/-- Files are compiled with an entry file that is a text, or an error is reported. -/
theorem compileFiles_eq_error (htable : c.table.Complete) (hreports : c.bundler.Reports)
    (hstars : c.bundler.ListsStarSources) {files : Fields} {entryFile : String}
    {failure : CompileFailure} (h : compileFiles c files entryFile = .error failure) :
    failure.Reported := by
  unfold compileFiles at h
  cases hsources : SourceTable.ofFields files with
  | error e => exact ⟨_, by simpa [hsources] using h.symm⟩
  | ok sources =>
      cases hproject : project c sources entryFile with
      | error failure' =>
          simp only [hsources, hproject, Except.error.injEq] at h
          subst h
          unfold project at hproject
          split at hproject
          · exact ⟨_, by simpa using hproject.symm⟩
          · split at hproject
            · simp at hproject
            · exact ⟨_, by simpa using hproject.symm⟩
      | ok p =>
          simp only [hsources, hproject] at h
          obtain ⟨hrooted, entry, _, rfl⟩ := rooted_of_project hsources hproject
          exact compileProject_eq_error hrooted
            (fun _ hpath => SourceTable.canonical?_of_contains hsources hpath) htable hreports hstars h

/-- With an entry file that is no text, entering the files decides whether a compile ends with a
report. -/
theorem compileEntry_eq_error (htable : c.table.Complete) (hreports : c.bundler.Reports)
    (hstars : c.bundler.ListsStarSources) {files : Fields} {entry : Value String}
    {failure : CompileFailure} (h : compileEntry c files entry = .error failure) :
    failure.Reported ∨
      entry.isWritable = false ∧ SourceTable.Enterable files ∧
        failure = .fault (.tooManyDigits ⟨none⟩) := by
  unfold compileEntry at h
  split at h
  · exact .inl (compileFiles_eq_error htable hreports hstars h)
  · split at h
    · exact .inl ⟨_, by simpa using h.symm⟩
    · rename_i sources hsources
      rw [Except.error.injEq] at h
      subst h
      cases hwritable : entry.isWritable with
      | true =>
          rw [Path.failureOfValue, if_pos hwritable]
          exact .inl ⟨_, rfl⟩
      | false =>
          -- The report would have to show the value.
          rw [Path.failureOfValue, hwritable]
          exact .inr ⟨rfl, SourceTable.isOk_ofFields_iff.1 ⟨sources, hsources⟩, rfl⟩

/-- An entry file that cannot be written ends the compile of files that can be entered. -/
theorem compileEntry_of_unwritable {files : Fields} {entry : Value String}
    (hentry : entry.isWritable = false) (hfiles : SourceTable.Enterable files) :
    compileEntry c files entry = .error (.fault (.tooManyDigits ⟨none⟩)) := by
  obtain ⟨sources, hsources⟩ := SourceTable.isOk_ofFields_iff.2 hfiles
  have htext : ∀ entryFile, entry ≠ .text entryFile := by
    rintro entryFile rfl
    exact nomatch hentry
  rw [compileEntry.eq_2 _ _ _ htext, hsources, Path.failureOfValue, hentry]
  rfl

/-- Files are compiled with an entry file that is any value, or an error is reported, unless the files
can be entered and the value is no text and has no display.  That an integer has too many digits to be
displayed is also the only other way in which a compile ends: no look-up of a key finds nothing. -/
theorem compileEntry_reports_iff (htable : c.table.Complete) (hreports : c.bundler.Reports)
    (hstars : c.bundler.ListsStarSources) (files : Fields) (entry : Value String) :
    (((∃ compiled, compileEntry c files entry = .ok compiled) ∨
        ∃ e, compileEntry c files entry = .error (.error e)) ↔
      entry.isWritable = true ∨ ¬SourceTable.Enterable files) ∧
      ∀ f, compileEntry c files entry = .error (.fault f) → f = .tooManyDigits ⟨none⟩ := by
  refine ⟨⟨fun hends => ?writable, fun hentry => ?ends⟩, fun f hfault => ?fault⟩
  case writable =>
    by_contra hneither
    rw [not_or, not_not, Bool.not_eq_true] at hneither
    rw [compileEntry_of_unwritable hneither.1 hneither.2] at hends
    rcases hends with ⟨compiled, h⟩ | ⟨e, h⟩ <;> cases h
  case ends =>
    cases h : compileEntry c files entry with
    | ok compiled => exact .inl ⟨compiled, rfl⟩
    | error failure =>
        rcases compileEntry_eq_error htable hreports hstars h with ⟨e, rfl⟩ | ⟨hvalue, hfiles, -⟩
        · exact .inr ⟨e, rfl⟩
        · simp [hvalue, hfiles] at hentry
  case fault =>
    rcases compileEntry_eq_error htable hreports hstars hfault with ⟨e, he⟩ | ⟨-, -, hf⟩
    · cases he
    · simpa using hf

/-- A compiler for files that export everything of each other, where one cannot be built. -/
def starCompiler : Compiler where
  bundler :=
    { transform := fun source _ _ =>
        if source = "broken;" then .error (.error ⟨"broken", []⟩)
        else .ok ⟨source, ["./a", "./b"], some [], [⟨"./b", "b"⟩], ["./b"]⟩
      bundlePackages := fun _ _ => .error (.error ⟨"no packages", []⟩) }
  table := OrderedMap.ofList (HostPackage.all.map fun package => (package, []))

/-- What the theorem asks of a compiler holds of this one. -/
theorem starCompiler_spec : starCompiler.table.Complete ∧ starCompiler.bundler.Reports ∧
    starCompiler.bundler.ListsStarSources := by
  refine ⟨ExportTable.complete_ofList_all fun _ => [], ⟨?transform, ?packages⟩, ?stars⟩
  case transform =>
    intro source loader path f
    by_cases hbroken : source = "broken;" <;> simp [starCompiler, hbroken]
  case packages =>
    intro specifiers externals f
    simp [starCompiler]
  case stars =>
    intro source loader path build htransform
    by_cases hbroken : source = "broken;"
    · simp [starCompiler, hbroken] at htransform
    · simp only [starCompiler, hbroken, if_false, Except.ok.injEq] at htransform
      subst htransform
      simp

/-- The least integer that has too many digits. -/
def longEntry : Value String := .number (.int (Nat.pow 10 maxIntegerDigits))

/-- It has no display. -/
theorem isWritable_longEntry : longEntry.isWritable = false := by
  have hpos : 0 < maxIntegerDigits := by decide
  rw [longEntry, Value.isWritable, Number.isWritable, decide_eq_false_iff_not]
  -- The number of digits stays a variable, so that nothing computes the power.
  generalize maxIntegerDigits = k at hpos
  rw [Int.natAbs_natCast, Decimal.width, Nat.length_toDigits_le_iff (by decide) hpos]
  exact Nat.lt_irrefl _

/-- Files that export everything of each other are compiled or reported.  So is a file that holds no
text, even under an entry file that has no display, because the files are entered first. -/
theorem compileEntry_reports_iff_star :
    starCompiler.table.Complete ∧ starCompiler.bundler.Reports ∧
      starCompiler.bundler.ListsStarSources ∧
      ((∃ compiled, compileEntry starCompiler ringFiles (.text "a.ts") = .ok compiled) ∨
        ∃ e, compileEntry starCompiler ringFiles (.text "a.ts") = .error (.error e)) ∧
      ((∃ compiled, compileEntry starCompiler [("a.ts", .null)] longEntry = .ok compiled) ∨
        ∃ e, compileEntry starCompiler [("a.ts", .null)] longEntry = .error (.error e)) := by
  obtain ⟨htable, hreports, hstars⟩ := starCompiler_spec
  refine ⟨htable, hreports, hstars, ?text, ?noText⟩
  case text =>
    exact (compileEntry_reports_iff htable hreports hstars ringFiles (.text "a.ts")).1.2 (.inl rfl)
  case noText =>
    refine (compileEntry_reports_iff htable hreports hstars [("a.ts", .null)] longEntry).1.2 (.inr ?_)
    decide

/-- The message about an entry file that is no text cannot show an integer of too many digits. -/
theorem not_forall_compileEntry_reports :
    ¬∀ (c : Compiler) (files : Fields) (entry : Value String), c.table.Complete →
      c.bundler.Reports → c.bundler.ListsStarSources →
        (∃ compiled, compileEntry c files entry = .ok compiled) ∨
          ∃ e, compileEntry c files entry = .error (.error e) := by
  intro h
  obtain ⟨htable, hreports, hstars⟩ := starCompiler_spec
  have hfiles : SourceTable.Enterable ringFiles := by decide +kernel
  have hend := h starCompiler ringFiles longEntry htable hreports hstars
  rw [compileEntry_of_unwritable isWritable_longEntry hfiles] at hend
  rcases hend with ⟨compiled, hok⟩ | ⟨e, herror⟩
  · cases hok
  · cases herror

end Compile
end VideoBundle
