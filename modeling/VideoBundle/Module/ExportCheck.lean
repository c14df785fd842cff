import VideoBundle.Bundler.Basic
import VideoBundle.Module.Basic
import VideoBundle.Module.ImportSite
import VideoBundle.SourceTable

/-!
# Export check

Every name that a file imports must be exported by the module to which the import leads.  A file that
exports everything of another module exports the other's names as well, apart from `default`.  A
module whose names are known only at run time exports what one likes, and so does every module that
exports everything of it.
-/

namespace VideoBundle

/-- The modules of a bundle, with what the export check has to know of them. -/
structure ModuleGraph where
  modules : ModuleTable
  builds : OrderedMap String BuiltFile
  packageExports : OrderedMap String (Option (List String))

namespace ExportCheck

/-- The exported names of modules that have been worked out, where `none` means any name. -/
abbrev Known := List (String × Option (List String))

/-- The names that forwarding modules export, by module. -/
def hostExports (table : ExportTable) : List (String × List String) :=
  table.entries.map fun entry => (ModuleId.host entry.1.specifier, "default" :: entry.2)

/-- Add the names of modules of which everything is exported. -/
def addStars (exportsOf : String → Except Fault (Option (List String)))
    (dependencies : OrderedMap String String) (names : List String) :
    List String → Except Fault (Option (List String))
  | [] => .ok (some names)
  | specifier :: specifiers =>
      match dependencies.find? specifier with
      | none => .error (.missingKey specifier)
      | some target =>
          match exportsOf target with
          | .error fault => .error fault
          | .ok none => .ok none
          | .ok (some starNames) =>
              addStars exportsOf dependencies (names ++ starNames.filter (· != "default"))
                specifiers

/-- The names that a module exports, where `none` means any name.  A module that is being worked out
already adds nothing.  `fuel` bounds the number of files on the way. -/
def exportsOf (graph : ModuleGraph) (table : ExportTable) (known : Known) :
    (fuel : Nat) → (visiting : List String) → String → Except Fault (Option (List String))
  | 0, _, _ => .ok (some [])
  | fuel + 1, visiting, id =>
      match (hostExports table).lookup id with
      | some names => .ok (some names)
      | none =>
          match ModuleId.packageOf? id with
          | some specifier => .ok ((graph.packageExports.find? specifier).getD none)
          | none =>
              match known.lookup id with
              | some names => .ok names
              | none =>
                  match graph.builds.find? id with
                  | none => .ok none
                  | some build =>
                      match build.exports with
                      | none => .ok none
                      | some names =>
                          if visiting.contains id then .ok (some [])
                          else
                            match graph.modules.find? id with
                            | none => .error (.missingKey id)
                            | some m =>
                                addStars (exportsOf graph table known fuel (id :: visiting))
                                  m.dependencies names build.starSources

/-- Number of files that a way along exports of everything can visit. -/
def fuelFor (graph : ModuleGraph) : Nat := graph.builds.size + 2

/-- The diagnostic for a name that a file imports and nobody exports. -/
def diagnostic (file target : String) (binding : Binding) (source : String) : Diagnostic :=
  let site := ImportSite.locate source binding.specifier binding.name
  { text := "No matching export in \"" ++ ModuleId.shown target ++ "\" for import \"" ++
      binding.name ++ "\""
    file := some file
    line := some site.line
    column := some site.column
    lineText := some site.text }

/-- Check one binding of a file. -/
def checkBinding (graph : ModuleGraph) (table : ExportTable) (sources : SourceTable)
    (known : Known) (file : String) (dependencies : OrderedMap String String) (binding : Binding) :
    Except Fault (Known × List Diagnostic) :=
  match dependencies.find? binding.specifier with
  | none => .ok (known, [])
  | some target =>
      if (ModuleId.packageOf? target).isSome ∧ binding.name = "default" then .ok (known, [])
      else do
        let names ← exportsOf graph table known (fuelFor graph) [] target
        let known := (target, names) :: known
        match names with
        | none => return (known, [])
        | some names =>
            if names.contains binding.name then return (known, [])
            else
              match sources.find? file with
              | none => throw (.missingKey file)
              | some source => return (known, [diagnostic file target binding source.toText])

/-- Check bindings of a file one after another. -/
def checkBindings (graph : ModuleGraph) (table : ExportTable) (sources : SourceTable)
    (known : Known) (file : String) (dependencies : OrderedMap String String) :
    List Binding → Except Fault (Known × List Diagnostic)
  | [] => .ok (known, [])
  | binding :: bindings => do
      let (known, found) ← checkBinding graph table sources known file dependencies binding
      let (known, more) ← checkBindings graph table sources known file dependencies bindings
      return (known, found ++ more)

/-- Check files one after another. -/
def checkFiles (graph : ModuleGraph) (table : ExportTable) (sources : SourceTable)
    (known : Known) : List (String × BuiltFile) → Except Fault (List Diagnostic)
  | [] => .ok []
  | (file, build) :: files =>
      match graph.modules.find? file with
      | none => .error (.missingKey file)
      | some m => do
          let (known, found) ←
            checkBindings graph table sources known file m.dependencies build.bindings
          let more ← checkFiles graph table sources known files
          return found ++ more

end ExportCheck

/-- The diagnostics for all names that files import and nobody exports. -/
def ModuleGraph.missingExports (graph : ModuleGraph) (table : ExportTable) (sources : SourceTable) :
    Except Fault (List Diagnostic) :=
  ExportCheck.checkFiles graph table sources [] graph.builds.entries

end VideoBundle
