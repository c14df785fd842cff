import VideoBundle.Bundler.Basic
import VideoBundle.Bundler.Log
import VideoBundle.Bundler.Report
import VideoBundle.Bytes.Utf8
import VideoBundle.Json.Writer

/-!
# A command line tool as bundler

The bundler is a command that reads source text on its standard input, writes an output file and, when
asked, a build report.  A source file is built twice: once into the older module format for its code,
once into the standard format for its report and its statements.  Of several runs that belong together
the first that fails is the failure.
-/

namespace VideoBundle

/-- How the command is called. -/
structure ToolSettings where
  program : String
  target : String
  directory : String
  /-- The directory that takes the files of a run. -/
  scratch : String

/-- What one run is asked to do. -/
structure ToolTask where
  arguments : List String
  input : String
  wantsReport : Bool

/-- A run of the command. -/
structure Invocation where
  program : String
  arguments : List String
  directory : String
  input : String
deriving DecidableEq, Repr

/-- How a run of the command ended. -/
inductive ToolOutcome where
  /-- The command could not be started. -/
  | notStarted (problem : String)
  /-- The command ended with a status, bytes on its standard error, the text of its output file and
  the JSON text of its report. -/
  | ended (status : Int) (errors : List UInt8) (output report : Option String)

/-- The outcomes of runs. -/
abbrev ToolRunner := Invocation → ToolOutcome

namespace ToolSettings

/-- The module format of the code. -/
inductive Format where
  | older
  | standard

/-- The name of a module format. -/
def Format.name : Format → String
  | .older => "cjs"
  | .standard => "esm"

/-- The arguments of every run. -/
def commonArguments (s : ToolSettings) (format : Format) : List String :=
  ["--format=" ++ format.name, "--platform=browser", "--target=" ++ s.target, "--log-level=error",
   "--color=false"]

/-- The run that does a task. -/
def invocation (s : ToolSettings) (task : ToolTask) : Invocation where
  program := s.program
  arguments := task.arguments ++ ["--outfile=" ++ s.scratch ++ "/out.js"] ++
    (if task.wantsReport then ["--metafile=" ++ s.scratch ++ "/meta.json"] else [])
  directory := s.directory
  input := task.input

/-- The failure that a run's standard error tells of. -/
def failureOf (status : Int) (errors : List UInt8) : BuildFailure :=
  let text := String.ofList (Utf8.decodeLenient errors)
  match Log.read text with
  | .error e => .fault (.tooManyDigits e)
  | .ok [] =>
      let message := stripText text
      .error ⟨if message = "" then
        "esbuild exited with status " ++ String.ofList (integerDigits status) ++ "." else message, []⟩
  | .ok diagnostics => .error ⟨Diagnostic.renderAll diagnostics, diagnostics⟩

/-- The code and the report that a run leaves. -/
def resultOf (s : ToolSettings) (task : ToolTask) (outcome : ToolOutcome) :
    Except BuildFailure (String × Value String) :=
  match outcome with
  | .notStarted problem =>
      .error (.error ⟨"Could not start esbuild (" ++ s.program ++ "): " ++ problem, []⟩)
  | .ended status errors output report =>
      if status ≠ 0 then .error (failureOf status errors)
      else
        let code := String.ofList (Text.unifyNewlines (output.getD "").toList)
        match if task.wantsReport then report else none with
        | none => .ok (code, .object [])
        | some report =>
            match Json.decode report with
            | .ok report => .ok (code, report)
            | .error e => .error (.fault (.malformedJson e))

/-- Do a task. -/
def run (s : ToolSettings) (runner : ToolRunner) (task : ToolTask) :
    Except BuildFailure (String × Value String) :=
  s.resultOf task (runner (s.invocation task))

/-! ## Source files -/

/-- Build a source file into a module format. -/
def transformTask (s : ToolSettings) (source : String) (loader : Loader) (path : String)
    (format : Format) (wantsReport : Bool) : ToolTask where
  arguments :=
    ["--loader=" ++ loader.name, "--jsx=automatic", "--sourcefile=" ++ path, "--bundle",
     "--external:*"] ++ s.commonArguments format
  input := source
  wantsReport := wantsReport

/-- The tasks that build a source file. -/
def transformTasks (s : ToolSettings) (source : String) (loader : Loader) (path : String) :
    List ToolTask :=
  [s.transformTask source loader path .older false, s.transformTask source loader path .standard true]

/-- Build a source file. -/
def transform (s : ToolSettings) (runner : ToolRunner) (source : String) (loader : Loader)
    (path : String) : Except BuildFailure BuiltFile := do
  let (code, _) ← s.run runner (s.transformTask source loader path .older false)
  let (standardCode, report) ← s.run runner (s.transformTask source loader path .standard true)
  match Bindings.read standardCode with
  | .error e => throw (.fault (.malformedJson e))
  | .ok bindings =>
      let imports := Report.imports report
      return {
        code, imports
        exports := Report.standardExports? report
        bindings := bindings.names.filter fun b => imports.contains b.specifier
        starSources := bindings.starSources.filter imports.contains }

/-! ## Installed packages -/

/-- The source of the module that holds packages. -/
def packagesSource (specifiers : List String) : String :=
  let entries := specifiers.map fun specifier =>
    "  " ++ Json.literal specifier ++ ": require(" ++ Json.literal specifier ++ ")"
  "module.exports = \x7b\n" ++ ",\n".intercalate entries ++ "\n\x7d;\n"

/-- Build packages into one module. -/
def packagesTask (s : ToolSettings) (specifiers externals : List String) : ToolTask where
  arguments :=
    ["--bundle", "--loader=js", "--sourcefile=<packages>"] ++ externals.map ("--external:" ++ ·) ++
      s.commonArguments .older
  input := packagesSource specifiers
  wantsReport := true

/-- Build a module that exports everything of a package, for its report. -/
def exportsTask (s : ToolSettings) (externals : List String) (specifier : String) : ToolTask where
  arguments :=
    ["--bundle", "--loader=js"] ++ externals.map ("--external:" ++ ·) ++
      s.commonArguments .standard ++ ["--sourcefile=" ++ specifier]
  input := "export * from " ++ Json.literal specifier ++ ";\n"
  wantsReport := true

/-- The tasks that build packages. -/
def packagesTasks (s : ToolSettings) (specifiers externals : List String) : List ToolTask :=
  s.packagesTask (distinct specifiers) externals ::
    (distinct specifiers).map (s.exportsTask externals)

/-- The names that a package exports, where its build tells them. -/
def packageExports (result : String × Value String) : Except BuildFailure (Option (List String)) :=
  match Bindings.read result.1 with
  | .error e => .error (.fault (.malformedJson e))
  | .ok bindings =>
      match Report.exports? result.2 with
      | some names => .ok (if bindings.starSources ≠ [] ∨ names = [] then none else some names)
      | none => .ok none

/-- Build packages. -/
def bundlePackages (s : ToolSettings) (runner : ToolRunner) (specifiers externals : List String) :
    Except BuildFailure BuiltPackages := do
  let specifiers := distinct specifiers
  let (code, report) ← s.run runner (s.packagesTask specifiers externals)
  let analyses ← specifiers.mapM fun specifier => s.run runner (s.exportsTask externals specifier)
  let exports ← analyses.mapM packageExports
  return ⟨code, Report.imports report, specifiers.zip exports⟩

/-- The tool as a bundler. -/
def bundler (s : ToolSettings) (runner : ToolRunner) : Bundler where
  transform := s.transform runner
  bundlePackages := s.bundlePackages runner

end ToolSettings
end VideoBundle
