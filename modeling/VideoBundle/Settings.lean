import VideoBundle.Bundler.Tool
import VideoBundle.Number.Digits
import VideoBundle.Text.LetterCase
import VideoBundle.Text.Quoted

/-!
# Settings

Settings come from environment variables.  Blanks around a value do not count, and an empty value is
as good as none.
-/

namespace VideoBundle

/-- The variables of an environment. -/
abbrev Environment := List (String × String)

/-- The settings of the service. -/
structure Settings where
  sessionCapacity : Nat
  interpreter : String
  discovery : Bool
  bundlerProgram : String
  bundlerTarget : String
  resolveDirectory : String
  journalEnabled : Bool
  journalCollection : String
  cloudProject : Option String
  warnings : List String

namespace Environment

/-- The value of a variable without blanks around it; empty when there is none. -/
def trimmed (env : Environment) (name : String) : String :=
  stripText ((env.lookup name).getD "")

/-- The value of a variable, unless it is empty. -/
def value? (env : Environment) (name : String) : Option String :=
  let v := trimmed env name
  if v = "" then none else some v

/-- Whether a text says yes. -/
def saysYes (text : String) : Bool :=
  ["1", "true", "yes"].contains (lowerText (stripText text))

/-- Whether the value of a variable says yes; `unset` stands for a missing value. -/
def flag (env : Environment) (name unset : String) : Bool :=
  saysYes ((env.lookup name).getD unset)

/-- Whether the value of a variable says yes; `unset` stands for a missing or empty value. -/
def flagUnlessEmpty (env : Environment) (name unset : String) : Bool :=
  saysYes (((env.lookup name).filter (· != "")).getD unset)

end Environment

namespace Settings

/-- The number of sessions that are remembered unless another is set. -/
def standardCapacity : Nat := 250

/-- The script interpreter unless another is set. -/
def standardInterpreter : String := "node"

/-- The command that bundles unless another is set. -/
def standardBundler : String := "esbuild"

/-- The language level of bundles unless another is set. -/
def standardTarget : String := "es2020"

/-- The capacity in a variable, with a warning when it is no integer. -/
def capacityOf (env : Environment) : Nat × List String :=
  match env.value? "SESSION_PROJECT_CAPACITY" with
  | none => (standardCapacity, [])
  | some raw =>
      match integerOfText raw with
      | .ok n => (if 0 < n then n.toNat else standardCapacity, [])
      | .error _ =>
          (standardCapacity, ["Ignoring invalid SESSION_PROJECT_CAPACITY=" ++ quotedText raw])

/-- The settings in an environment; `directory` is the current directory. -/
def ofEnvironment (env : Environment) (directory : String) : Settings where
  sessionCapacity := (capacityOf env).1
  interpreter := (env.value? "NODE_BIN").getD standardInterpreter
  discovery := env.flagUnlessEmpty "RUNTIME_EXPORT_DISCOVERY" "true"
  bundlerProgram := (env.value? "ESBUILD_BIN").getD standardBundler
  bundlerTarget := (env.value? "ESBUILD_TARGET").getD standardTarget
  resolveDirectory := (env.value? "PACKAGE_RESOLVE_DIR").getD directory
  journalEnabled := env.flag "COMPILE_LOG_ENABLED" "false"
  journalCollection := (env.value? "FIRESTORE_COMPILE_COLLECTION").getD "compile_logs"
  cloudProject := env.value? "GCP_PROJECT_ID"
  warnings := (capacityOf env).2

/-- How the bundler is run; `scratch` is the directory that takes its files. -/
def bundlerTool (s : Settings) (scratch : String) : ToolSettings :=
  ⟨s.bundlerProgram, s.bundlerTarget, s.resolveDirectory, scratch⟩

end Settings
end VideoBundle
