import VideoBundle.Compile.Walk
import VideoBundle.Module.Comments

/-!
# Compiling

A project is compiled in four steps: its files are entered into a source table, the modules are found
by a walk from the entry file, their exports are checked, and the modules are linked.
-/

namespace VideoBundle
namespace Compile

/-- The tools with which projects are compiled. -/
structure Compiler where
  bundler : Bundler
  table : ExportTable

/-- The project of a source table and an entry file. -/
def project (c : Compiler) (sources : SourceTable) (entryFile : String) :
    Except CompileFailure Walk.Project :=
  match Path.canonical entryFile with
  | .error e => .error (.error (.source e))
  | .ok entry =>
      if sources.contains entry then .ok ⟨sources, entry, c.bundler, c.table⟩
      else .error (.error (.unknownEntry entry (sortTexts sources.keys)))

/-- The code of the entry file's module. -/
def entryCode (graph : ModuleGraph) (entry : String) : Except CompileFailure String :=
  match graph.modules.find? entry with
  | some m => .ok m.code
  | none => .error (.fault (.missingKey entry))

/-- Check the modules of a project and link them. -/
def finish (p : Walk.Project) (graph : ModuleGraph) : Except CompileFailure String :=
  match entryCode graph p.entry with
  | .error e => .error e
  | .ok code =>
      if Comments.isBlankCode code then .error (.error .emptyOutput)
      else
        match graph.missingExports p.table p.sources with
        | .error f => .error (.fault f)
        | .ok [] => .ok (graph.modules.link ModuleId.entry)
        | .ok missing => .error (.error (.unexportedNames missing))

/-- A compiled project: its modules, the requests made to the bundler, and the bundle. -/
structure Compiled where
  graph : ModuleGraph
  calls : List BundlerCall
  bundle : String

/-- The modules of a project, checked, with their bundle. -/
def compileProject (p : Walk.Project) : Except CompileFailure Compiled :=
  match Walk.run p with
  | .error e => .error e
  | .ok (graph, calls) => (finish p graph).map fun bundle => ⟨graph, calls, bundle⟩

/-- Compile files with some entry file. -/
def compileFiles {τ : Type} [FileText τ] (c : Compiler) (files : List (String × Value τ))
    (entryFile : String) : Except CompileFailure Compiled :=
  match SourceTable.ofFields files with
  | .error e => .error (.error (.source e))
  | .ok sources =>
      match project c sources entryFile with
      | .error e => .error e
      | .ok p => compileProject p

/-- Compile files with an entry file that is given as a value.  The files are entered first; a value
that is no text then names none of them. -/
def compileEntry (c : Compiler) (files : Fields) : Value String → Except CompileFailure Compiled
  | .text entryFile => compileFiles c files entryFile
  | entry =>
      match SourceTable.ofFields files with
      | .error e => .error (.error (.source e))
      | .ok _ => .error (.ofPath (Path.failureOfValue entry))

/-- The modules of files with some entry file, and their bundle. -/
def compileGraph (c : Compiler) (files : Fields) (entryFile : String) :
    Except CompileFailure (ModuleGraph × String) :=
  (compileFiles c files entryFile).map fun compiled => (compiled.graph, compiled.bundle)

/-- The bundle of files with some entry file. -/
def bundle {τ : Type} [FileText τ] (c : Compiler) (files : List (String × Value τ))
    (entryFile : String) : Except CompileFailure String :=
  (compileFiles c files entryFile).map Compiled.bundle

end Compile
end VideoBundle
