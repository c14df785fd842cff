import VideoBundle.Path.Basic
import VideoBundle.Project.Document

/-!
# Drafts

A draft is a request laid over the project before it.  Every field takes the value of the request,
else of the project before, else the standard one.  Files are merged or replaced, then the listed
paths are deleted.  A draft becomes a document when it has files and positive measures.
-/

namespace VideoBundle

namespace ProjectFiles

/-- The spellings under which a path is deleted: as it is written, and its canonical one. -/
def spellings (path : String) : List String :=
  match Path.canonical? path with
  | some canonicalPath => if canonicalPath = path then [path] else [path, canonicalPath]
  | none => [path]

/-- The files without those under some keys, and how many these were. -/
def deleteKeys (files : ProjectFiles) : List String → ProjectFiles × Nat
  | [] => (files, 0)
  | key :: keys =>
      if files.contains key then
        let (left, removed) := deleteKeys (files.erase key) keys
        (left, removed + 1)
      else deleteKeys files keys

/-- The files without those under some paths, and how many these were. -/
def delete (files : ProjectFiles) (paths : List String) : ProjectFiles × Nat :=
  deleteKeys files (paths.flatMap spellings)

end ProjectFiles

/-- A project that may still lack files. -/
structure Draft where
  info : Meta
  entryFile : String
  files : Option ProjectFiles
  defaultProps : Fields
  inputProps : Fields

/-- Why a draft is no document. -/
inductive DraftError where
  | noFiles
  | notPositive (measure : String)
  /-- A measure is too large for its size to be tested. -/
  | measureTooLarge (e : NumberError)
deriving DecidableEq, Repr

/-- The wording of a draft error. -/
def DraftError.message : DraftError → String
  | .noFiles =>
      "No project files available. Pass files, or keep usePreviousProject enabled " ++
        "after a successful create_video call in this session."
  | .notPositive measure => measure ++ " must be a positive number."
  | .measureTooLarge e => e.message

/-- Whether a number is finite and greater than zero. -/
def Number.isPositive (n : Number) : Except NumberError Bool :=
  n.isFinite.map fun finite => finite && !n.isNonpositive

/-- Whether a value is a finite number greater than zero. -/
def Value.isPositiveNumber : Value String → Except NumberError Bool
  | .number n => n.isPositive
  | _ => .ok false

/-- Check that a measure is positive. -/
def checkMeasure (measure : String) (n : Number) : Except DraftError Unit :=
  match n.isPositive with
  | .ok true => .ok ()
  | .ok false => .error (.notPositive measure)
  | .error e => .error (.measureTooLarge e)

namespace Draft

/-- The document of a draft. -/
def toDocument (d : Draft) : Except DraftError Document := do
  match d.files with
  | none => throw .noFiles
  | some files =>
      if files.isEmpty then throw .noFiles
      checkMeasure "width" d.info.width
      checkMeasure "height" d.info.height
      checkMeasure "fps" d.info.fps
      checkMeasure "durationInFrames" d.info.durationInFrames
      return ⟨d.info, d.entryFile, files, d.defaultProps, d.inputProps⟩

end Draft

/-- A request laid over the project before it. -/
structure Resolution where
  draft : Draft
  usedPrevious : Bool
  updateMode : UpdateMode
  deletedFiles : Nat
  canReuse : Bool

namespace Resolution

/-- The files of a request laid over those of the project that is reused. -/
def laidFiles (request : Request) (base : Option Document) : Option ProjectFiles :=
  match request.files, base with
  | some files, some base =>
      match request.updateMode with
      | .merge => some (base.files.overlay files)
      | .replace => some files
  | some files, none => some files
  | none, some base => some base.files
  | none, none => none

/-- The description of a request laid over that of the project that is reused. -/
def laidMeta (request : Request) (base : Option Document) : Meta :=
  let below := (base.map Document.info).getD Meta.standard
  { title := request.title.getD below.title
    compositionId := request.compositionId.getD below.compositionId
    width := request.width.getD below.width
    height := request.height.getD below.height
    fps := request.fps.getD below.fps
    durationInFrames := request.durationInFrames.getD below.durationInFrames }

/-- Lay a request over the project before it, which is left out unless the request reuses it. -/
def ofRequest (request : Request) (previous : Option Document) : Resolution :=
  let base := if request.usePreviousProject then previous else none
  let deletion := (laidFiles request base).map (ProjectFiles.delete · request.deleteFiles)
  { draft :=
      { info := laidMeta request base
        entryFile := request.entryFile.getD ((base.map Document.entryFile).getD standardEntryFile)
        files := deletion.map Prod.fst
        defaultProps := request.defaultProps.getD ((base.map Document.defaultProps).getD [])
        inputProps := request.inputProps.getD ((base.map Document.inputProps).getD []) }
    usedPrevious := base.isSome
    updateMode := request.updateMode
    deletedFiles := (deletion.map Prod.snd).getD 0
    canReuse := request.usePreviousProject }

end Resolution
end VideoBundle
