import VideoBundle.Json.Reader
import VideoBundle.Value.Display

/-!
# Requests

A request asks for a project to be made or changed.  Every field may be missing; null counts as
missing.  Fields are checked in a fixed order and the first that is not of its kind is the error.
Files come as an object of texts, or as a JSON text that writes one.
-/

namespace VideoBundle

/-- How the files of a request meet those of the project before it. -/
inductive UpdateMode where
  | merge
  | replace
deriving DecidableEq, Repr

/-- The name of an update mode. -/
def UpdateMode.name : UpdateMode → String
  | .merge => "merge"
  | .replace => "replace"

/-- The update mode with a name. -/
def UpdateMode.ofName? (name : String) : Option UpdateMode :=
  [UpdateMode.merge, UpdateMode.replace].find? (·.name == name)

/-- Texts of files under their paths as they were written. -/
abbrev ProjectFiles := OrderedMap String String

/-- A request with its fields checked. -/
structure Request where
  title : Option String
  compositionId : Option String
  width : Option Number
  height : Option Number
  fps : Option Number
  durationInFrames : Option Number
  entryFile : Option String
  files : Option ProjectFiles
  defaultProps : Option Fields
  inputProps : Option Fields
  usePreviousProject : Bool
  updateMode : UpdateMode
  deleteFiles : List String
  resetProject : Bool

/-- The kinds of values that fields ask for. -/
inductive FieldKind where
  | string
  | number
  | boolean
  | object
deriving DecidableEq, Repr

/-- The name of a kind. -/
def FieldKind.name : FieldKind → String
  | .string => "string"
  | .number => "number"
  | .boolean => "boolean"
  | .object => "object"

/-- What is wrong with a request. -/
inductive RequestError where
  | notAnObject
  | unknownMode (shown : String)
  /-- An update mode that no message can show. -/
  | unwritableMode (e : TooManyDigits)
  | deleteListNotTexts
  /-- A field holds a value of a kind that it does not ask for. -/
  | wrongKind (field : String) (expected : FieldKind) (received : String)
  /-- The text of the files is no JSON text. -/
  | filesMalformed
  | filesNotAnObject
  | fileNotText (path : String)
deriving DecidableEq, Repr

/-- The wording of a request error. -/
def RequestError.message : RequestError → String
  | .notAnObject => "input: Expected object"
  | .unknownMode shown => "updateMode: Expected 'merge' | 'replace', received " ++ shown
  | .unwritableMode e => e.message
  | .deleteListNotTexts => "deleteFiles: Expected array of strings"
  | .wrongKind field expected received =>
      field ++ ": Expected " ++ expected.name ++ ", received " ++ received
  | .filesMalformed =>
      "files must be a valid JSON string, e.g. '\x7b\"/src/Video.tsx\":\"...code...\"\x7d'"
  | .filesNotAnObject =>
      "files must be a JSON object like \x7b\"/src/Video.tsx\": \"...code...\"\x7d"
  | .fileNotText path => "files." ++ path ++ ": File \"" ++ path ++ "\" must be a string."

namespace Request

/-- The value of a field, unless it is missing or null. -/
def given? (payload : Fields) (field : String) : Option (Value String) :=
  (lookupEntry field payload).bind Value.nonNull?

/-- An optional field that has to be of a kind. -/
def optional {α : Type} (kind : FieldKind) (read? : Value String → Option α) (payload : Fields)
    (field : String) : Except RequestError (Option α) :=
  match given? payload field with
  | none => .ok none
  | some v =>
      match read? v with
      | some a => .ok (some a)
      | none => .error (.wrongKind field kind v.kindName)

/-- An optional text. -/
def optionalText (payload : Fields) (field : String) : Except RequestError (Option String) :=
  optional .string Value.text? payload field

/-- An optional number; truth values are no numbers. -/
def optionalNumber (payload : Fields) (field : String) : Except RequestError (Option Number) :=
  optional .number Value.number? payload field

/-- An optional truth value. -/
def optionalBool (payload : Fields) (field : String) : Except RequestError (Option Bool) :=
  optional .boolean Value.bool? payload field

/-- An optional object. -/
def optionalObject (payload : Fields) (field : String) : Except RequestError (Option Fields) :=
  optional .object Value.object? payload field

/-- The files in the entries of an object; the first that is no text is the error. -/
def filesOfFields : Fields → Except RequestError (List (String × String))
  | [] => .ok []
  | (path, .text source) :: entries =>
      match filesOfFields entries with
      | .ok files => .ok ((path, source) :: files)
      | .error e => .error e
  | (path, _) :: _ => .error (.fileNotText path)

/-- The files in an object. -/
def filesOfObject : Value String → Except RequestError ProjectFiles
  | .object entries => (filesOfFields entries).map OrderedMap.ofList
  | _ => .error .filesNotAnObject

/-- The files that a value gives: nothing for null, else an object or a JSON text of one. -/
def filesOfValue : Value String → Except RequestError (Option ProjectFiles)
  | .null => .ok none
  | .text source =>
      match Json.decode source with
      | .ok v => (filesOfObject v).map some
      | .error _ => .error .filesMalformed
  | v => (filesOfObject v).map some

/-- The update mode of a request. -/
def modeOf (payload : Fields) : Except RequestError UpdateMode :=
  match given? payload "updateMode" with
  | none => .ok .merge
  | some v =>
      match v.text?.bind UpdateMode.ofName? with
      | some mode => .ok mode
      | none =>
          if v.isWritable then .error (.unknownMode v.displayText)
          else .error (.unwritableMode ⟨none⟩)

/-- The paths that a request deletes. -/
def deletionsOf (payload : Fields) : Except RequestError (List String) :=
  match given? payload "deleteFiles" with
  | none => .ok []
  | some (.list items) =>
      match items.mapM Value.text? with
      | some paths => .ok paths
      | none => .error .deleteListNotTexts
  | some _ => .error .deleteListNotTexts

/-- The request that an object's entries make. -/
def ofFields (payload : Fields) : Except RequestError Request := do
  let updateMode ← modeOf payload
  let deleteFiles ← deletionsOf payload
  let title ← optionalText payload "title"
  let compositionId ← optionalText payload "compositionId"
  let width ← optionalNumber payload "width"
  let height ← optionalNumber payload "height"
  let fps ← optionalNumber payload "fps"
  let durationInFrames ← optionalNumber payload "durationInFrames"
  let entryFile ← optionalText payload "entryFile"
  let files ← filesOfValue ((lookupEntry "files" payload).getD .null)
  let defaultProps ← optionalObject payload "defaultProps"
  let inputProps ← optionalObject payload "inputProps"
  let usePreviousProject ← optionalBool payload "usePreviousProject"
  let resetProject ← optionalBool payload "resetProject"
  return {
    title, compositionId, width, height, fps, durationInFrames, entryFile, files, defaultProps,
    inputProps
    usePreviousProject := usePreviousProject.getD true
    updateMode, deleteFiles
    resetProject := resetProject.getD false }

/-- The request that a value makes. -/
def ofValue : Value String → Except RequestError Request
  | .object payload => ofFields payload
  | _ => .error .notAnObject

end Request
end VideoBundle
