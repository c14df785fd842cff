import VideoBundle.Project.Request

/-!
# Project documents

A document is a project ready to be compiled.  Its wire form is an object that a later request can
send back.
-/

namespace VideoBundle

/-- The description of a video. -/
structure Meta where
  title : String
  compositionId : String
  width : Number
  height : Number
  fps : Number
  durationInFrames : Number
deriving DecidableEq

namespace Meta

/-- The description of a video that is not described. -/
def standard : Meta := ⟨"Untitled", "Main", .int 1920, .int 1080, .int 30, .int 150⟩

/-- The fields of a description under their wire names. -/
def fields (m : Meta) : Fields :=
  [("title", .text m.title), ("compositionId", .text m.compositionId), ("width", .number m.width),
   ("height", .number m.height), ("fps", .number m.fps),
   ("durationInFrames", .number m.durationInFrames)]

end Meta

/-- The entry file of a project that names none. -/
def standardEntryFile : String := "/src/Video.tsx"

/-- Files as the entries of an object. -/
def ProjectFiles.fields (files : ProjectFiles) : Fields :=
  files.entries.map fun entry => (entry.1, .text entry.2)

/-- A project ready to be compiled. -/
structure Document where
  info : Meta
  entryFile : String
  files : ProjectFiles
  defaultProps : Fields
  inputProps : Fields
deriving DecidableEq

namespace Document

/-- The fields of a document under their wire names. -/
def fields (d : Document) : Fields :=
  d.info.fields ++
    [("entryFile", .text d.entryFile), ("files", .object (ProjectFiles.fields d.files)),
     ("defaultProps", .object d.defaultProps), ("inputProps", .object d.inputProps)]

/-- The wire form of a document. -/
def toValue (d : Document) : Value String := .object d.fields

end Document
end VideoBundle
