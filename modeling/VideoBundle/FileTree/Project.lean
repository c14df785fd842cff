import VideoBundle.Bytes.Utf8
import VideoBundle.FileTree.Basic
import VideoBundle.Json.Reader
import VideoBundle.Module.DataUrl
import VideoBundle.Path.Loader

/-!
# Projects on disk

A project is read from a directory, whose files keep their paths below it, or from a file with a JSON
object of texts.  A file that is no text becomes a data URL.
-/

namespace VideoBundle

/-- Why a project cannot be read. -/
inductive ProjectFileError where
  | file (e : FileError)
  | notText (e : Utf8.DecodeError)
  | malformedJson (m : Json.Malformed)
  | tooManyDigits (e : TooManyDigits)
  | notAnObject
deriving DecidableEq

/-- The wording for bytes that are no text. -/
def Utf8.DecodeError.message (e : Utf8.DecodeError) : String :=
  let first := String.ofList (decimalDigits e.start)
  let last := String.ofList (decimalDigits (e.start + e.width - 1))
  (if e.width = 1 then
    "'utf-8' codec can't decode byte 0x" ++
      String.ofList (Text.hexNumeral Text.lowerHex 2 e.byte.toNat) ++ " in position " ++ first
  else "'utf-8' codec can't decode bytes in position " ++ first ++ "-" ++ last) ++
    ": " ++ e.fault.message

/-- The wording of an error. -/
def ProjectFileError.message : ProjectFileError → String
  | .file e => e.message
  | .notText e => e.message
  | .malformedJson m => "Failed to parse JSON: " ++ (Json.Error.malformed m).message
  | .tooManyDigits e => e.message
  | .notAnObject => "Top-level JSON value must be an object mapping paths to file contents."

/-- Whether an error is a matter of what the JSON text says. -/
def ProjectFileError.isAboutContents : ProjectFileError → Bool
  | .malformedJson _ => true
  | .notAnObject => true
  | _ => false

namespace ProjectFile

/-- The media types that files on disk get by extension. -/
def mediaTypes : List (String × String) :=
  [(".js", "application/javascript"), (".mjs", "application/javascript"),
   (".json", "application/json"), (".css", "text/css"), (".svg", "image/svg+xml"),
   (".png", "image/png"), (".jpg", "image/jpeg"), (".jpeg", "image/jpeg"), (".gif", "image/gif"),
   (".mp4", "video/mp4"), (".webm", "video/webm"), (".mov", "video/quicktime"),
   (".mp3", "audio/mpeg"), (".wav", "audio/x-wav")]

/-- The media type of a file on disk. -/
def mediaType (name : String) : String :=
  (mediaTypes.lookup (Path.extension name)).getD DataUrl.unknownMediaType

/-- The text of bytes, with one spelling of line ends. -/
def text? (bytes : List UInt8) : Except Utf8.DecodeError String :=
  (Utf8.decode bytes).map fun cs => String.ofList (Text.unifyNewlines cs)

/-- The text of a project file; bytes that are no text become a data URL. -/
def source (name : String) (bytes : List UInt8) : String :=
  match text? bytes with
  | .ok text => text
  | .error _ => DataUrl.ofBytes (mediaType name) bytes

/-- The files below a directory that have a supported extension. -/
def ofDirectory (entries : List (String × FileTree)) : Fields :=
  (FileTree.filesIn entries).filterMap fun found =>
    let name := (found.1.getLast?).getD ""
    if Path.hasSupportedExtension name then
      some ("/" ++ "/".intercalate found.1, .text (source name found.2))
    else none

/-- The files in the bytes of a JSON file. -/
def ofJson (bytes : List UInt8) : Except ProjectFileError (List (String × Value PointText)) :=
  match text? bytes with
  | .error e => .error (.notText e)
  | .ok text =>
      match Json.readPoints (PointText.ofString text) with
      | .ok (.object entries) => .ok (entries.map fun entry => (entry.1.toText, entry.2))
      | .ok _ => .error .notAnObject
      | .error (.malformed m) => .error (.malformedJson m)
      | .error (.tooManyDigits e) => .error (.tooManyDigits e)

/-- The files of the project at a path. -/
def load (disk : Disk) (path : FilePath) :
    Except ProjectFileError (List (String × Value PointText)) :=
  match disk path with
  | .ok (.directory entries) =>
      .ok ((ofDirectory entries).map fun file => (file.1, file.2.mapText PointText.ofString))
  | .ok (.file bytes) => ofJson bytes
  | .error problem => .error (.file ⟨problem, path.render⟩)

end ProjectFile
end VideoBundle
