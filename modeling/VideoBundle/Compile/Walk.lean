import VideoBundle.Compile.Error
import VideoBundle.Module.ExportCheck
import VideoBundle.Module.Source

/-!
# Walking a project

The modules of a bundle are found by a walk from the entry file along its imports, one generation of
files after another.  All files of a generation are built before their imports are followed.  Installed
packages are built together at the end.  The requests that a walk makes to the bundler are kept in
order.
-/

namespace VideoBundle
namespace Walk

/-- What a walk works on. -/
structure Project where
  sources : SourceTable
  entry : String
  bundler : Bundler
  table : ExportTable

/-- What a walk has found. -/
structure Found where
  modules : ModuleTable
  builds : OrderedMap String BuiltFile
  /-- Installed packages in the order in which they were met. -/
  packages : List String
  /-- Identifiers of all modules that were met. -/
  seen : List String
  /-- Files that were met and are not yet built. -/
  waiting : List String
  /-- Requests that were made to the bundler. -/
  calls : List BundlerCall

/-- Build one file; only source files go to the bundler.  Gives the requests made to it as well. -/
def buildFile (p : Project) (path : String) :
    Except CompileFailure (BuiltFile × List BundlerCall) :=
  match p.sources.find? path with
  | none => .error (.fault (.missingKey path))
  | some source =>
      match Path.loader path with
      | .json =>
          match ModuleSource.json source with
          | .ok code => .ok (.plain code, [])
          | .error e => .error (.error (.malformedJson path e))
      | .css => .ok (.plain (ModuleSource.css path source), [])
      | .dataUrl => .ok (.plain (ModuleSource.asset path source.toText), [])
      | loader =>
          match p.bundler.transform source.toText loader path with
          | .ok build => .ok (build, [.file source.toText loader path])
          | .error (.error e) => .error (.error (.bundler e.message))
          | .error (.fault f) => .error (.fault f)

/-- The identifier of the module to which an import leads. -/
def moduleId : ImportTarget → String
  | .host package => ModuleId.host package.specifier
  | .file path => path
  | .package specifier => ModuleId.package specifier

/-- Add the forwarding module of a host package, unless it is there. -/
def addHost (p : Project) (package : HostPackage) (modules : ModuleTable) :
    Except CompileFailure ModuleTable :=
  let id := ModuleId.host package.specifier
  if modules.contains id then .ok modules
  else
    match p.table.find? package with
    | some names =>
        .ok (modules.insert id
          ⟨id, HostPackage.forwarder package.specifier names, OrderedMap.empty⟩)
    | none => .error (.fault (.missingKey package.specifier))

/-- Meet the target of an import; a target met before changes nothing. -/
def meet (p : Project) (target : ImportTarget) (found : Found) : Except CompileFailure Found :=
  let id := moduleId target
  if found.seen.contains id then .ok found
  else
    let found := { found with seen := id :: found.seen }
    match target with
    | .host package => (addHost p package found.modules).map fun modules => { found with modules }
    | .package specifier => .ok { found with packages := found.packages ++ [specifier] }
    | .file path => .ok { found with waiting := found.waiting ++ [path] }

/-- Follow the imports of a file; gives the targets of its specifiers. -/
def follow (p : Project) (path : String) (dependencies : OrderedMap String String)
    (found : Found) : List String → Except CompileFailure (OrderedMap String String × Found)
  | [] => .ok (dependencies, found)
  | specifier :: specifiers =>
      match Specifier.resolve p.sources.contains specifier (some path) (some p.entry) with
      | .error u => .error (.error (.unresolved u))
      | .ok target =>
          match meet p target found with
          | .error e => .error e
          | .ok found =>
              follow p path (dependencies.insert specifier (moduleId target)) found specifiers

/-- Link a built file: follow its imports, then add its module. -/
def linkFile (p : Project) (path : String) (build : BuiltFile) (found : Found) :
    Except CompileFailure Found :=
  match follow p path OrderedMap.empty found build.imports with
  | .error e => .error e
  | .ok (dependencies, found) =>
      .ok { found with
        modules := found.modules.insert path ⟨path, build.code, dependencies⟩
        builds := found.builds.insert path build }

/-- Link built files one after another. -/
def linkFiles (p : Project) (found : Found) :
    List (String × BuiltFile) → Except CompileFailure Found
  | [] => .ok found
  | (path, build) :: files =>
      match linkFile p path build found with
      | .error e => .error e
      | .ok found => linkFiles p found files

/-- Build files in order; the first that fails is the error. -/
def buildFiles (p : Project) :
    List String → Except CompileFailure (List (String × BuiltFile) × List BundlerCall)
  | [] => .ok ([], [])
  | path :: paths =>
      match buildFile p path with
      | .error e => .error e
      | .ok (build, calls) =>
          match buildFiles p paths with
          | .error e => .error e
          | .ok (files, more) => .ok ((path, build) :: files, calls ++ more)

/-- Walk generation after generation until no file is waiting; `rounds` bounds their number. -/
def generations (p : Project) : (rounds : Nat) → Found → Except CompileFailure Found
  | 0, found => .ok found
  | rounds + 1, found =>
      if found.waiting = [] then .ok found
      else
        match buildFiles p found.waiting with
        | .error e => .error e
        | .ok (files, calls) =>
            match linkFiles p { found with waiting := [], calls := found.calls ++ calls } files with
            | .error e => .error e
            | .ok found => generations p rounds found

/-- What is known before the first file is built. -/
def start (p : Project) : Found where
  modules := OrderedMap.ofList
    [(ModuleId.entry,
      ⟨ModuleId.entry, ModuleSource.entry p.entry, OrderedMap.ofList [(p.entry, p.entry)]⟩)]
  builds := OrderedMap.empty
  packages := []
  seen := [ModuleId.entry, p.entry]
  waiting := [p.entry]
  calls := []

/-- Link the imports of the packages' module, all of which must lead to the host. -/
def linkPackageImports (p : Project) (dependencies : OrderedMap String String)
    (modules : ModuleTable) :
    List String → Except CompileFailure (OrderedMap String String × ModuleTable)
  | [] => .ok (dependencies, modules)
  | specifier :: specifiers =>
      match HostPackage.ofSpecifier? specifier with
      | none => .error (.error (.unresolved ⟨specifier, ModuleId.packages⟩))
      | some package =>
          match addHost p package modules with
          | .error e => .error e
          | .ok modules =>
              linkPackageImports p
                (dependencies.insert specifier (ModuleId.host specifier)) modules specifiers

/-- Add the module of one installed package. -/
def addPackage (modules : ModuleTable) (specifier : String) : ModuleTable :=
  modules.insert (ModuleId.package specifier)
    { id := ModuleId.package specifier
      code := ModuleSource.package specifier
      dependencies := OrderedMap.ofList [(ModuleId.packages, ModuleId.packages)] }

/-- The graph of what was found, with the installed packages built and linked, and all requests made
to the bundler. -/
def addPackages (p : Project) (found : Found) :
    Except CompileFailure (ModuleGraph × List BundlerCall) :=
  if found.packages = [] then
    .ok (⟨found.modules, found.builds, OrderedMap.empty⟩, found.calls)
  else
    match p.bundler.bundlePackages found.packages p.table.packageNames with
    | .error (.error e) => .error (.error (.bundler e.message))
    | .error (.fault f) => .error (.fault f)
    | .ok built =>
        match linkPackageImports p OrderedMap.empty found.modules built.imports with
        | .error e => .error e
        | .ok (dependencies, modules) =>
            .ok
              ({ modules := found.packages.foldl addPackage
                   (modules.insert ModuleId.packages
                     ⟨ModuleId.packages, built.code, dependencies⟩)
                 builds := found.builds
                 packageExports := OrderedMap.ofList built.exports },
               found.calls ++ [.packages found.packages p.table.packageNames])

/-- The modules of a project: every generation adds a file, so that there are at most as many as
files. -/
def run (p : Project) : Except CompileFailure (ModuleGraph × List BundlerCall) :=
  match generations p (p.sources.size + 1) (start p) with
  | .error e => .error e
  | .ok found => addPackages p found

/-- The files that went to the bundler, in order, each with its loader. -/
def transformed (graph : ModuleGraph) : List (String × Loader) :=
  (graph.builds.keys.map fun path => (path, Path.loader path)).filter fun file => file.2.isSource

/-- The installed packages of a project, in order. -/
def installedPackages (graph : ModuleGraph) : List String :=
  graph.modules.keys.filterMap ModuleId.packageOf?

end Walk
end VideoBundle
