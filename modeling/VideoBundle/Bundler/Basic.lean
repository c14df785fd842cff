import VideoBundle.Bundler.Bindings
import VideoBundle.Bundler.Diagnostic
import VideoBundle.Number.Basic
import VideoBundle.Path.Loader
import VideoBundle.Value.Display

/-!
# Bundlers

A bundler turns one source file into a module of the older format, whose imports are calls of
`require`, and builds all installed packages of a project into one such module.
-/

namespace VideoBundle

/-- A failure that no answer to a request provides for. -/
inductive Fault where
  /-- A look-up found nothing under a key. -/
  | missingKey (key : String)
  | malformedJson (e : Json.Error)
  | tooManyDigits (e : TooManyDigits)
  | number (e : NumberError)
deriving DecidableEq

/-- The wording of a fault. -/
def Fault.message : Fault → String
  | .missingKey key => quotedText key
  | .malformedJson e => e.message
  | .tooManyDigits e => e.message
  | .number e => e.message

/-- A source file as the bundler has built it. -/
structure BuiltFile where
  code : String
  imports : List String
  /-- The exported names; nothing when they are known only at run time. -/
  exports : Option (List String)
  bindings : List Binding
  starSources : List String
deriving DecidableEq

/-- All installed packages of a project built into one module. -/
structure BuiltPackages where
  code : String
  imports : List String
  /-- The exported names of each package, where they are known. -/
  exports : List (String × Option (List String))
deriving DecidableEq

/-- The bundler has reported errors, or could not be started. -/
structure BundlerError where
  message : String
  diagnostics : List Diagnostic
deriving DecidableEq

/-- Why a build has no result. -/
inductive BuildFailure where
  | error (e : BundlerError)
  | fault (f : Fault)
deriving DecidableEq

/-- The services of a bundler. -/
structure Bundler where
  /-- Build one source file. -/
  transform : (source : String) → Loader → (path : String) → Except BuildFailure BuiltFile
  /-- Build packages into one module and leave some imports outside. -/
  bundlePackages : (specifiers externals : List String) → Except BuildFailure BuiltPackages

/-- A request that is made to a bundler. -/
inductive BundlerCall where
  /-- Build one source file. -/
  | file (source : String) (loader : Loader) (path : String)
  /-- Build packages into one module and leave some imports outside. -/
  | packages (specifiers externals : List String)
deriving DecidableEq

namespace BuiltFile

/-- A module that nobody had to build. -/
def plain (code : String) : BuiltFile := ⟨code, [], none, [], []⟩

/-- The specifiers in calls of `require` with a text in double quotes. -/
def requiredSpecifiers : (skip : Nat) → List Char → List String
  | _, [] => []
  | skip + 1, _ :: cs => requiredSpecifiers skip cs
  | 0, c :: cs =>
      match Text.afterLead? "require(\"".toList (c :: cs) with
      | none => requiredSpecifiers 0 cs
      | some rest =>
          let specifier := rest.takeWhile (· != '"')
          if specifier ≠ [] ∧ "\")".toList.isPrefixOf (rest.dropWhile (· != '"')) then
            String.ofList specifier :: requiredSpecifiers (specifier.length + 10) cs
          else requiredSpecifiers 0 cs

/-- A finished module of the older format; its imports are read off its calls of `require`. -/
def finished (source : String) : BuiltFile :=
  { plain source with imports := distinct (requiredSpecifiers 0 source.toList) }

end BuiltFile
end VideoBundle
