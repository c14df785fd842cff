import VideoBundle.Bundler.Basic
import VideoBundle.SourceTable
import VideoBundle.Specifier
import VideoBundle.Text.LetterCase

/-!
# Compile errors

Why a project has no bundle.  Messages that tell of well-known mistakes end in hints.
-/

namespace VideoBundle

namespace Hints

/-- Whether a message contains a text. -/
def mentions (message text : String) : Bool :=
  Text.occursIn text.toList message.toList

/-- The hints that apply to a message. -/
def forMessage (message : String) : List String :=
  (if mentions message "No matching export" && mentions message "TransitionSeries" then
    ["Hint: import TransitionSeries from @remotion/transitions, not from remotion."]
  else []) ++
  (if mentions message "No matching export" && mentions message "fade" then
    ["Hint: import fade from @remotion/transitions/fade."]
  else []) ++
  (if mentions (lowerText message) "unterminated string literal" then
    ["Hint: check for missing quote characters in JSX style/object literals."]
  else [])

/-- A message with the hints that apply to it. -/
def add (message : String) : String :=
  match forMessage message with
  | [] => message
  | hints => message ++ "\n\n" ++ joinLines hints

end Hints

/-- Why a project has no bundle. -/
inductive CompileError where
  | source (e : SourceError)
  | unknownEntry (entry : String) (available : List String)
  | malformedJson (path : String) (e : Json.Error)
  | bundler (message : String)
  | unresolved (u : Unresolved)
  | unexportedNames (missing : List Diagnostic)
  | emptyOutput
deriving DecidableEq

/-- The wording of a compile error. -/
def CompileError.message : CompileError → String
  | .source e => e.message
  | .unknownEntry entry available =>
      "Entry file \"" ++ entry ++ "\" does not exist. Available files: " ++
        (if available = [] then "none" else ", ".intercalate available) ++ "."
  | .malformedJson path e => path ++ ": invalid JSON: " ++ e.message
  | .bundler message => Hints.add message
  | .unresolved u => Hints.add u.message
  | .unexportedNames missing => Hints.add (Diagnostic.renderAll missing)
  | .emptyOutput => "Compilation produced no JavaScript output."

/-- Why compiling ended without a bundle. -/
inductive CompileFailure where
  | error (e : CompileError)
  | fault (f : Fault)
deriving DecidableEq

/-- The failure of a compile whose entry file is no path. -/
def CompileFailure.ofPath : PathFailure → CompileFailure
  | .source e => .error (.source e)
  | .unwritable e => .fault (.tooManyDigits e)

end VideoBundle
