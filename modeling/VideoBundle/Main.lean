import VideoBundle.CommandLine.Basic

/-!
# The program

The outer layer of the command line: it reads the environment and the disk, runs the program and hands
out what it leaves.  It starts no other programs, so that files which need the bundler are reported as
errors; files of JSON, style sheets and assets are bundled without it.
-/

namespace VideoBundle
namespace Host

/-- The number of directories inside each other that are read. -/
def maxDepth : Nat := 64

/-- The variables that the program knows. -/
def variableNames : List String :=
  ["LOG_LEVEL", "ESBUILD_BIN", "ESBUILD_TARGET", "PACKAGE_RESOLVE_DIR"]

/-- The variables that are set. -/
def readEnvironment : IO Environment :=
  variableNames.filterMapM fun name => do return (← IO.getEnv name).map (name, ·)

/-- Read what stands at a place.  Links inside a directory are not followed to directories, and
directories that lie too deep count as empty. -/
def readTree : (depth : Nat) → String → IO (Option FileTree)
  | depth, path => do
      let place := System.mkFilePath [path]
      if ← place.isDir then
        match depth with
        | 0 => return some .empty
        | depth + 1 =>
            let entries ← (← place.readDir).toList.filterMapM fun entry => do
              let kind := (← entry.path.symlinkMetadata).type
              if kind == .other || (kind == .symlink && (← entry.path.isDir)) then return none
              return (← readTree depth (path ++ "/" ++ entry.fileName)).map (entry.fileName, ·)
            return some (.directory (entries.foldl
              (fun sorted entry => FileTree.putChild entry.1 entry.2 sorted) []))
      else if ← place.pathExists then
        return some (.file (← IO.FS.readBinFile place).toList)
      else return none

/-- What stands at a path. -/
def look (depth : Nat) (path : FilePath) : IO (Except FileProblem FileTree) := do
  match ← readTree depth path.render with
  | some tree => return .ok tree
  | none =>
      let above := System.mkFilePath [path.directory.render]
      if (← above.pathExists) && !(← above.isDir) then return .error .notADirectory
      else return .error .notFound

/-- The part of the disk that a command line needs. -/
def readDisk (arguments : List String) : IO Disk := do
  match Command.read arguments with
  | .ok (.compile a) =>
      let source := FilePath.ofText a.source
      let outputs := (a.output.map FilePath.ofText).toList
      let project ← look maxDepth source
      let places ← (outputs ++ outputs.map FilePath.directory).mapM fun path =>
        return (path, ← look 0 path)
      return fun path =>
        if path = source then project else (places.lookup path).getD (.error .notFound)
  | _ => return fun _ => .error .notFound

/-- No other program can be started. -/
def runner : ToolRunner := fun _ => .notStarted "programs cannot be started here"

/-- The program in an environment. -/
def commandLine (env : Environment) (directory : String) : CommandLine where
  program := "videobundle"
  compiler :=
    { bundler := ((Settings.ofEnvironment env directory).bundlerTool directory).bundler runner
      table := ExportTable.known }

/-- Hand out what a program leaves, and end with its status. -/
def finish (result : CommandResult) : IO UInt32 := do
  if let some (path, bundle) := result.written then IO.FS.writeFile path.render bundle
  IO.print result.output
  IO.eprint result.errors
  match result.exit with
  | .status code => return code.toUInt32
  | .complaint text =>
      IO.eprintln text
      return 1

end Host
end VideoBundle

/-- Run the program on the arguments that it is given. -/
def main (arguments : List String) : IO UInt32 := do
  let env ← VideoBundle.Host.readEnvironment
  let program := VideoBundle.Host.commandLine env (← IO.currentDir).toString
  match program.run env (← VideoBundle.Host.readDisk arguments) arguments with
  | .ok result => VideoBundle.Host.finish result
  | .error fault =>
      IO.eprintln fault.message
      return 1
