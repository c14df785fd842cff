import VideoBundle.Bytes.Base64
import VideoBundle.Bytes.Percent
import VideoBundle.Path.Basic
import VideoBundle.Text.Search

/-!
# Data URLs

An asset enters a bundle as a URL that carries its contents.  Vector images are written with percent
signs, all other assets in Base64.
-/

namespace VideoBundle
namespace DataUrl

/-- The media types of assets by extension. -/
def mediaTypes : List (String × String) :=
  [(".svg", "image/svg+xml"), (".png", "image/png"), (".jpg", "image/jpeg"),
   (".jpeg", "image/jpeg"), (".gif", "image/gif"), (".webp", "image/webp"), (".mp4", "video/mp4"),
   (".webm", "video/webm"), (".mov", "video/quicktime"), (".mp3", "audio/mpeg"),
   (".wav", "audio/wav"), (".ogg", "audio/ogg")]

/-- The media type of contents of which nothing is known. -/
def unknownMediaType : String := "application/octet-stream"

/-- The media type of a file. -/
def mediaType (path : String) : String :=
  (mediaTypes.lookup (Path.extension path)).getD unknownMediaType

/-- The URL of bytes in Base64. -/
def ofBytes (mediaType : String) (bytes : List UInt8) : String :=
  "data:" ++ mediaType ++ ";base64," ++ String.ofList (Base64.encode bytes)

/-- The URL of a text with percent signs. -/
def ofText (mediaType source : String) : String :=
  "data:" ++ mediaType ++ "," ++ String.ofList (Percent.encodeText source.toList)

/-- Whether a text is a data URL already. -/
def isDataUrl (source : String) : Bool :=
  (Text.afterLead? "data:".toList source.toList).isSome

/-- The data URL of an asset. -/
def ofSource (path source : String) : String :=
  if isDataUrl source then source
  else if mediaType path = "image/svg+xml" then ofText (mediaType path) source
  else ofBytes (mediaType path) (Utf8.encode source.toList)

/-- The bytes that a data URL carries: behind the first comma, in Base64 if the header says so at its
end, else in percent encoding. -/
def contents? (url : String) : Option (List UInt8) := do
  let cs ← Text.afterLead? "data:".toList url.toList
  match cs.dropWhile (· != ',') with
  | [] => none
  | _ :: payload =>
      if ";base64".toList.isSuffixOf (cs.takeWhile (· != ',')) then Base64.decode? payload
      else Percent.decode? payload

end DataUrl
end VideoBundle
