import VideoBundle.CommandLine.Arguments
import VideoBundle.Compile.Basic
import VideoBundle.FileTree.Project
import VideoBundle.Project.Document
import VideoBundle.Settings

/-!
# The command line

The program compiles the project at a path and prints the bundle, or writes it to a file.  It says on
its error output why a project cannot be compiled.
-/

namespace VideoBundle

/-- How a program ends: with a status, or with a text that tells why. -/
inductive ExitReason where
  | status (code : Nat)
  | complaint (text : String)
deriving DecidableEq, Repr

/-- What a program leaves. -/
structure CommandResult where
  exit : ExitReason
  output : String
  errors : String
  written : Option (FilePath × String)
deriving DecidableEq, Repr

/-- A failure that the program does not answer. -/
inductive CommandFault where
  | unknownLevel (level : String)
  | project (e : ProjectFileError)
  | output (e : FileError)
  | compile (f : Fault)
deriving DecidableEq

/-- The wording of a failure. -/
def CommandFault.message : CommandFault → String
  | .unknownLevel level => "Unknown level: " ++ quotedText level
  | .project e => e.message
  | .output e => e.message
  | .compile f => f.message

/-- The program: its name, and the compiler that it uses. -/
structure CommandLine where
  program : String
  compiler : Compile.Compiler

namespace CommandLine

/-- The levels of logging. -/
def logLevels : List String :=
  ["CRITICAL", "FATAL", "ERROR", "WARN", "WARNING", "INFO", "DEBUG", "NOTSET"]

/-- The level of logging unless an argument says another. -/
def standardLevel (env : Environment) : String :=
  upperText (stripText (((env.lookup "LOG_LEVEL").filter (· != "")).getD "WARNING"))

/-- A program that ends without printing a bundle. -/
def stopped (code : Nat) (output errors : String) : CommandResult :=
  ⟨.status code, output, errors, none⟩

/-- Hand a bundle out: to a file, if one is named. -/
def deliver (disk : Disk) (output : Option String) (bundle : String) :
    Except CommandFault CommandResult :=
  match output with
  | none => .ok ⟨.status 0, bundle, "", none⟩
  | some text =>
      let path := FilePath.ofText text
      match disk.checkWritable path with
      | .error e => .error (.output e)
      | .ok () =>
          let characters := String.ofList (decimalDigits bundle.length)
          .ok ⟨.status 0, "Wrote " ++ characters ++ " characters to " ++ path.render ++ "\n", "",
            some (path, bundle)⟩

/-- Compile files and hand the bundle out. -/
def compileFiles (c : CommandLine) (disk : Disk) (a : Arguments)
    (files : List (String × Value PointText)) : Except CommandFault CommandResult :=
  if files.isEmpty then
    .ok (stopped 1 "" ("No project files found in " ++ (FilePath.ofText a.source).render ++ "\n"))
  else
    match Compile.bundle c.compiler files (a.entry.getD standardEntryFile) with
    | .ok bundle => deliver disk a.output bundle
    | .error (.error e) => .ok (stopped 1 "" ("Project compilation error: " ++ e.message ++ "\n"))
    | .error (.fault f) => .error (.compile f)

/-- Compile the project that arguments name. -/
def compile (c : CommandLine) (env : Environment) (disk : Disk) (a : Arguments) :
    Except CommandFault CommandResult :=
  let level := a.logLevel.getD (standardLevel env)
  if level ∉ logLevels then .error (.unknownLevel level)
  else
    match ProjectFile.load disk (FilePath.ofText a.source) with
    | .ok files => compileFiles c disk a files
    | .error e =>
        if e.isAboutContents then .ok ⟨.complaint e.message, "", "", none⟩ else .error (.project e)

/-- Run the program. -/
def run (c : CommandLine) (env : Environment) (disk : Disk) (arguments : List String) :
    Except CommandFault CommandResult :=
  match Command.read arguments with
  | .error e => .ok (stopped 2 "" (usageError c.program e))
  | .ok .help => .ok (stopped 0 (helpText c.program) "")
  | .ok (.compile a) => compile c env disk a

end CommandLine
end VideoBundle
