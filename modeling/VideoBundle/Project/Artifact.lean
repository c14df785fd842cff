import VideoBundle.HostPackage.Forwarder
import VideoBundle.Project.Document

/-!
# Artifacts

An artifact answers a request: the description of the video, the bundle, the props, and the error if
there was one.  A bundle that could not be made is replaced by one that shows nothing.
-/

namespace VideoBundle

/-- The bundle that shows nothing. -/
def fallbackBundle : String :=
  "var " ++ bundleGlobal ++ " = \x7b default: function RemotionFallback() \x7b return null; \x7d \x7d;"

/-- The answer to a request. -/
structure Artifact where
  info : Fields
  bundle : String
  defaultProps : Fields
  inputProps : Fields
  compileError : Option String
deriving DecidableEq

namespace Artifact

/-- Description fields, with the standard value for each that is missing or null. -/
def completeInfo (info : Fields) : Fields :=
  Meta.standard.fields.map fun entry =>
    (entry.1, ((lookupEntry entry.1 info).bind Value.nonNull?).getD entry.2)

/-- The artifact of its parts.  Without a bundle it carries the one that shows nothing; an empty
error is none. -/
def ofParts (info : Fields) (bundle : Option String) (defaultProps inputProps : Fields)
    (error : Option String) : Artifact where
  info := completeInfo info
  bundle := bundle.getD fallbackBundle
  defaultProps := defaultProps
  inputProps := inputProps
  compileError := error.filter (· != "")

/-- Whether an artifact carries no error. -/
def isOk (a : Artifact) : Bool := a.compileError.isNone

/-- The fields of an artifact under their wire names. -/
def fields (a : Artifact) : Fields :=
  [("meta", .object a.info), ("bundle", .text a.bundle), ("defaultProps", .object a.defaultProps),
   ("inputProps", .object a.inputProps)] ++
    (a.compileError.map fun e => ("compileError", .text e)).toList

/-- The wire form of an artifact. -/
def toValue (a : Artifact) : Value String := .object a.fields

/-- The wire form of an artifact as a JSON text. -/
def toJson (a : Artifact) : String := Json.encode a.toValue

/-- The JSON text of an artifact; one with an integer of too many digits has none. -/
def text (a : Artifact) : Except TooManyDigits String :=
  if a.toValue.isWritable then .ok a.toJson else .error ⟨none⟩

end Artifact

/-- An artifact with a status text. -/
structure Response where
  artifact : Artifact
  status : String
deriving DecidableEq

/-- The response to a request that failed. -/
def Response.failed (message : String) (info defaultProps inputProps : Fields) : Response where
  artifact := Artifact.ofParts info none defaultProps inputProps (some message)
  status := "Project error: " ++ message

end VideoBundle
