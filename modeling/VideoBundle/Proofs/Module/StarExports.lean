import Mathlib.Logic.Relation
import VideoBundle.Module.ExportCheck
import VideoBundle.Proofs.Module.Identifiers

/-!
# Star exports

What a module exports is said here without a search.  Every module has names of its own, or its names
are known only at run time.  A star edge leads from a file with names of its own to a module of which
it exports everything.  A module offers its own names, and the names other than `default` of all
modules that star edges reach from it.

The search walks along paths that avoid the modules it is already working on.  `WaysAvoiding` are
these paths, and `WaysAvoiding.cons_or` is the fact that carries the search: a path that avoids some
modules either avoids one more of them, or can be cut at its last visit to that one.

Main results:

- `waysAvoiding_nil`: nothing to avoid leaves plain reachability.
- `WaysAvoiding.cons_or`: a path avoids one module more, or goes on from that module without coming
  back.
-/

namespace VideoBundle
namespace ModuleGraph

open Relation (ReflTransGen)

/-! ## Names of modules -/

/-- The names that a module exports by itself, where these are known. -/
inductive OwnNames (graph : ModuleGraph) (table : ExportTable) : String → List String → Prop
  | host {package : HostPackage} {names : List String} (h : table.find? package = some names) :
      OwnNames graph table (ModuleId.host package.specifier) ("default" :: names)
  | package {specifier : String} {names : List String}
      (h : graph.packageExports.find? specifier = some (some names)) :
      OwnNames graph table (ModuleId.package specifier) names
  | file {id : String} {build : BuiltFile} {names : List String}
      (hbuild : graph.builds.find? id = some build) (hnames : build.exports = some names) :
      OwnNames graph table id names

/-- The names of a module are known. -/
def Named (graph : ModuleGraph) (table : ExportTable) (id : String) : Prop :=
  ∃ names, graph.OwnNames table id names

/-- A built file with names of its own exports everything of another module. -/
def StarEdge (graph : ModuleGraph) (a b : String) : Prop :=
  ∃ build names m specifier,
    graph.builds.find? a = some build ∧ build.exports = some names ∧
      graph.modules.find? a = some m ∧ specifier ∈ build.starSources ∧
        m.dependencies.find? specifier = some b

/-- A module is reached by zero or more star edges. -/
def Reaches (graph : ModuleGraph) : String → String → Prop :=
  ReflTransGen graph.StarEdge

/-- A module offers a name: as its own, or as a name other than `default` of a module that it
reaches. -/
def Offers (graph : ModuleGraph) (table : ExportTable) (id name : String) : Prop :=
  (∃ names, graph.OwnNames table id names ∧ name ∈ names) ∨
    (name ≠ "default" ∧
      ∃ other names, graph.Reaches id other ∧ graph.OwnNames table other names ∧ name ∈ names)

/-- Every built file has a canonical path, a source, and a module that knows to which module each of
its star sources leads. -/
def WellFormed (graph : ModuleGraph) (sources : SourceTable) : Prop :=
  ∀ id build, graph.builds.find? id = some build →
    Path.canonical? id = some id ∧ sources.contains id = true ∧
      ∃ m, graph.modules.find? id = some m ∧
        ∀ specifier ∈ build.starSources, m.dependencies.contains specifier = true

/-! ## Paths that avoid modules -/

/-- A path of star edges none of whose modules is among those to avoid. -/
inductive WaysAvoiding (graph : ModuleGraph) (avoided : List String) : String → String → Prop
  | here {id : String} (h : id ∉ avoided) : WaysAvoiding graph avoided id id
  | step {id next last : String} (h : id ∉ avoided) (hedge : graph.StarEdge id next)
      (hrest : WaysAvoiding graph avoided next last) : WaysAvoiding graph avoided id last

variable {graph : ModuleGraph} {table : ExportTable} {avoided : List String}

/-- A way around some modules is a way. -/
theorem WaysAvoiding.reaches {a b : String} (h : graph.WaysAvoiding avoided a b) :
    graph.Reaches a b := by
  induction h with
  | here _ => exact ReflTransGen.refl
  | step _ hedge _ ih => exact ReflTransGen.head hedge ih

/-- With nothing to avoid, the paths are those of plain reachability. -/
theorem waysAvoiding_nil {a b : String} : graph.WaysAvoiding [] a b ↔ graph.Reaches a b := by
  constructor
  · exact WaysAvoiding.reaches
  · intro h
    induction h using ReflTransGen.head_induction_on with
    | refl => exact .here (by simp)
    | head hedge _ ih => exact .step (by simp) hedge ih

/-- A path avoids one module more, or it can be cut at its last visit to that module, from which it
then goes on without coming back. -/
theorem WaysAvoiding.cons_or {a b : String} (v : String) (h : graph.WaysAvoiding avoided a b) :
    graph.WaysAvoiding (v :: avoided) a b ∨ b = v ∨
      ∃ next, graph.StarEdge v next ∧ graph.WaysAvoiding (v :: avoided) next b := by
  induction h with
  | @here id hid =>
      by_cases hv : id = v
      · exact .inr (.inl hv)
      · exact .inl (.here (by simp [hv, hid]))
  | @step id next last hid hedge _ ih =>
      rcases ih with hrest | hrest
      · by_cases hv : id = v
        · subst hv
          exact .inr (.inr ⟨next, hedge, hrest⟩)
        · exact .inl (.step (by simp [hv, hid]) hedge hrest)
      · exact .inr hrest

/-- A path from a module that is allowed stays there, or goes on from it without coming back. -/
theorem WaysAvoiding.eq_or_step {a b : String} (h : graph.WaysAvoiding avoided a b) :
    b = a ∨ ∃ next, graph.StarEdge a next ∧ graph.WaysAvoiding (a :: avoided) next b := by
  rcases h.cons_or a with hways | hrest
  · cases hways with
    | here hmem => exact absurd List.mem_cons_self hmem
    | step hmem _ _ => exact absurd List.mem_cons_self hmem
  · exact hrest

/-- A way does not start at a module that it avoids. -/
theorem WaysAvoiding.start_not_mem {a b : String} (h : graph.WaysAvoiding avoided a b) :
    a ∉ avoided := by
  cases h with
  | here hmem => exact hmem
  | step hmem _ _ => exact hmem

/-! ## Modules that are no files -/

/-- In a well-formed graph what is built is a file. -/
theorem WellFormed.isAbsolute {sources : SourceTable} (hgraph : graph.WellFormed sources) {id : String}
    {build : BuiltFile} (h : graph.builds.find? id = some build) :
    Specifier.isAbsolute id = true :=
  Specifier.isAbsolute_of_canonical? (hgraph id build h).1

/-- No star edge leaves a module that is no built file. -/
theorem eq_of_reaches_of_not_built {a b : String} (hnone : graph.builds.find? a = none)
    (h : graph.Reaches a b) : b = a := by
  cases h using ReflTransGen.head_induction_on with
  | refl => rfl
  | head hedge _ =>
      obtain ⟨build, _, _, _, hbuild, _⟩ := hedge
      rw [hnone] at hbuild
      exact nomatch hbuild

end ModuleGraph
end VideoBundle
