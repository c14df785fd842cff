import VideoBundle.Number.Digits
import VideoBundle.Text.LetterCase
import VideoBundle.Value.Display

/-!
# Journal events

An event tells of one attempt to compile a project.  In the journal its texts are without blanks
around them, its result is one of two words, and its error is cut to a greatest length.
-/

namespace VideoBundle

/-- An attempt to compile a project. -/
structure CompileEvent where
  session : Option String
  tool : Option String
  result : Option String
  entryFile : Option String
  fileCount : Int
  usedPrevious : Bool
  error : Option String
deriving DecidableEq

namespace CompileEvent

/-- The greatest length of an error in the journal. -/
def maxErrorLength : Nat := 1500

/-- A text without blanks around it, unless nothing is left of it. -/
def trimmed? (text : Option String) : Option String :=
  (text.map stripText).filter (· != "")

/-- The word for a result: everything that is no success is a failure. -/
def resultWord (result : Option String) : String :=
  if lowerText (stripText (result.getD "")) = "success" then "success" else "fail"

/-- An error cut to its greatest length; an empty one is none. -/
def cutError (error : Option String) : Option String :=
  (error.filter (· != "")).map fun e => String.ofList (e.toList.take maxErrorLength)

/-- A text as a value; nothing is null. -/
def textOrNull (text : Option String) : Value String :=
  (text.map Value.text).getD .null

/-- What the journal keeps of an event. -/
def payload (e : CompileEvent) : Fields :=
  [("session_id", textOrNull (trimmed? e.session)),
   ("tool", .text ((trimmed? e.tool).getD "unknown")),
   ("result", .text (resultWord e.result)),
   ("entry_file", textOrNull e.entryFile),
   ("file_count", .number (.int e.fileCount)),
   ("used_previous", .bool e.usedPrevious),
   ("error", textOrNull (cutError e.error))]

end CompileEvent

/-! ## Events in objects -/

/-- Why a value is no count. -/
inductive CountError where
  | notANumber
  | infinite
  | badText (e : IntegerError)
  | wrongKind (kind : String)
deriving DecidableEq

/-- The wording of a count error. -/
def CountError.message : CountError → String
  | .notANumber => "cannot convert float NaN to integer"
  | .infinite => "cannot convert float infinity to integer"
  | .badText e => e.message
  | .wrongKind kind =>
      "int() argument must be a string, a bytes-like object or a real number, not '" ++ kind ++ "'"

/-- The count that a value gives; fractions are cut off. -/
def countOf : Value String → Except CountError Int
  | .number (.int n) => .ok n
  | .number (.float x) =>
      match x with
      | .nan => .error .notANumber
      | .infinite _ => .error .infinite
      | .finite negative m => .ok (if negative then -(m.truncate : Int) else m.truncate)
  | .bool b => .ok (if b then 1 else 0)
  | .text s =>
      match integerOfText s with
      | .ok n => .ok n
      | .error e => .error (.badText e)
  | v => .error (.wrongKind v.kindName)

namespace CompileEvent

/-- The event that an object's entries describe. -/
def ofFields (fields : Fields) : Except CountError CompileEvent :=
  let textUnder (key : String) : Option String := (lookupEntry key fields).bind Value.text?
  (countOf ((lookupEntry "file_count" fields).getD (.number (.int 0)))).map fun fileCount =>
    { session := textUnder "session_id"
      tool := textUnder "tool"
      result := textUnder "result"
      entryFile := textUnder "entry_file"
      fileCount := fileCount
      usedPrevious := ((lookupEntry "used_previous" fields).getD .null).isTruthy
      error := textUnder "error" }

end CompileEvent
end VideoBundle
