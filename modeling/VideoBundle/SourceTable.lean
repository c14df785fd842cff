import VideoBundle.Path.Basic
import VideoBundle.Text.Points
import VideoBundle.Value.Display

/-!
# Source tables

A source table holds the texts of a project's files under their canonical paths.  Of several
spellings of one path the last text counts, at the place of the first.  Texts are kept as code points,
since a file that comes from a JSON text can hold halves of surrogate pairs.
-/

namespace VideoBundle

/-- Why files cannot be entered into a source table. -/
inductive SourceError where
  /-- A path leads nowhere, or is no text; it is kept as it is shown. -/
  | invalidPath (shown : String)
  /-- The contents under a path are no text. -/
  | contentsNotText (path : String)
deriving DecidableEq, Repr

/-- The wording of a source error. -/
def SourceError.message : SourceError → String
  | .invalidPath shown => "Invalid file path: " ++ shown
  | .contentsNotText path => "File \"" ++ path ++ "\" must be a string."

/-- Why a value gives no path. -/
inductive PathFailure where
  | source (e : SourceError)
  /-- The value is no text, and cannot be shown in the message about that. -/
  | unwritable (e : TooManyDigits)
deriving DecidableEq

/-- The wording of a path failure. -/
def PathFailure.message : PathFailure → String
  | .source e => e.message
  | .unwritable e => e.message

namespace Path

/-- The canonical spelling of a path. -/
def canonical (path : String) : Except SourceError String :=
  match canonical? path with
  | some canonicalPath => .ok canonicalPath
  | none => .error (.invalidPath path)

/-- What is wrong with a value that is no text.  The message shows the value, which takes that all its
integers can be written. -/
def failureOfValue (v : Value String) : PathFailure :=
  if v.isWritable then .source (.invalidPath v.displayText) else .unwritable ⟨none⟩

/-- The canonical spelling of a path given as a value. -/
def canonicalOfValue : Value String → Except PathFailure String
  | .text path => (canonical path).mapError .source
  | v => .error (failureOfValue v)

end Path

/-- A kind of texts that files can hold. -/
class FileText (τ : Type) where
  /-- The code points of a text. -/
  source : τ → PointText

instance : FileText String := ⟨PointText.ofString⟩

instance : FileText PointText := ⟨id⟩

/-- The texts of a project's files under their canonical paths. -/
abbrev SourceTable := OrderedMap String PointText

namespace SourceTable

variable {τ : Type} [FileText τ]

/-- Enter one file. -/
def enter (table : SourceTable) (path : String) (contents : Value τ) :
    Except SourceError SourceTable :=
  match contents with
  | .text t => (Path.canonical path).map (table.insert · (FileText.source t))
  | _ => .error (.contentsNotText path)

/-- Enter files one after another; the first that cannot be entered is the error. -/
def enterAll (table : SourceTable) : List (String × Value τ) → Except SourceError SourceTable
  | [] => .ok table
  | (path, contents) :: files =>
      match table.enter path contents with
      | .ok table => enterAll table files
      | .error e => .error e

/-- The source table of a list of files. -/
def ofFields (files : List (String × Value τ)) : Except SourceError SourceTable :=
  enterAll OrderedMap.empty files

end SourceTable
end VideoBundle
