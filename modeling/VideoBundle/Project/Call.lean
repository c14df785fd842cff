import VideoBundle.Compile.Error
import VideoBundle.Journal.Event
import VideoBundle.Project.Artifact
import VideoBundle.Project.Draft
import VideoBundle.Project.Sessions

/-!
# Calls

A call takes a request for a session, lays it over the session's document, remembers the outcome,
compiles it and answers with an artifact and a status text.  The document is remembered before it is
compiled, so that an edit that does not compile is kept.  Every call that is answered leaves one event
for the journal.
-/

namespace VideoBundle

/-- A request for a session. -/
structure Call where
  payload : Value String
  session : Option String
  tool : String

/-- What compiles the files of a document. -/
abbrev DocumentCompiler := ProjectFiles → (entryFile : String) → Except CompileFailure String

/-- What a call leaves. -/
structure CallResult where
  sessions : Sessions
  events : List CompileEvent
  answer : Except Fault Response

namespace Status

/-- What a response says about the request, before it describes the video. -/
def noteLines (r : Resolution) (reset filesGiven : Bool) : List String :=
  (if reset then ["Reset session project before applying this request."] else []) ++
  (if r.usedPrevious then
    if !filesGiven then ["Reused previous session project files."]
    else
      match r.updateMode with
      | .merge => ["Merged with previous project."]
      | .replace => ["Replaced previous project files."]
  else if !r.canReuse then ["Previous session project ignored (usePreviousProject is false)."]
  else []) ++
  (if r.deletedFiles = 0 then []
  else
    ["Deleted " ++ toString r.deletedFiles ++ " " ++
      (if r.deletedFiles = 1 then "file" else "files") ++ "."])

/-- A number with a whole value written as an integer. -/
def measure (n : Number) : String := String.ofList n.displayShort

/-- The length of a video in seconds. -/
def seconds (info : Meta) : Except NumberError Binary64 :=
  info.durationInFrames.divide info.fps

/-- The status text of a document that was compiled. -/
def ofDocument (d : Document) (notes : List String) (tool : String) : Except NumberError String :=
  (seconds d.info).map fun length => joinLines (notes ++
    ["Created video project \"" ++ d.info.title ++ "\".",
     "Entry: " ++ d.entryFile ++ " (" ++ toString d.files.size ++ " files).",
     "Fallback meta: " ++ measure d.info.width ++ "x" ++ measure d.info.height ++ ", " ++
       measure d.info.fps ++ "fps, " ++ measure d.info.durationInFrames ++ " frames (~" ++
       String.ofList length.oneDecimal ++ "s).",
     "The player is using merged props (defaultProps + inputProps).",
     "To iterate: update files, props, or metadata and call " ++ tool ++ " again."])

end Status

namespace Call

/-- The session of calls that name none. -/
def standardSession : String := "default"

/-- The session of a call. -/
def sessionId (c : Call) : String :=
  (c.session.filter (· != "")).getD standardSession

/-- The event of a call. -/
def event (c : Call) (error entryFile : Option String) (fileCount : Nat) (usedPrevious : Bool) :
    CompileEvent where
  session := some c.sessionId
  tool := some c.tool
  result := some (if (error.filter (· != "")).isSome then "fail" else "success")
  entryFile := entryFile
  fileCount := fileCount
  usedPrevious := usedPrevious
  error := error

/-- The sessions and the resolution that a request leads to. -/
def resolve (c : Call) (request : Request) (sessions : Sessions) : Sessions × Resolution :=
  let sessions := if request.resetProject then sessions.clear c.sessionId else sessions
  (sessions, Resolution.ofRequest request (sessions.find? c.sessionId))

/-- Answer a request that led to a document with the outcome of compiling it. -/
def answerCompiled (c : Call) (request : Request) (r : Resolution) (d : Document)
    (sessions : Sessions) (outcome : Except CompileFailure String) : CallResult :=
  match outcome with
  | .error (.fault f) => ⟨sessions, [], .error f⟩
  | .error (.error e) =>
      let message := "Project compilation error: " ++ e.message
      ⟨sessions, [c.event (some message) (some d.entryFile) d.files.size r.usedPrevious],
       .ok (.failed message d.info.fields d.defaultProps d.inputProps)⟩
  | .ok bundle =>
      let artifact := Artifact.ofParts d.info.fields (some bundle) d.defaultProps d.inputProps none
      let notes := Status.noteLines r request.resetProject request.files.isSome
      ⟨sessions, [c.event none (some d.entryFile) d.files.size r.usedPrevious],
       match Status.ofDocument d notes c.tool with
       | .ok status => .ok ⟨artifact, status⟩
       | .error e => .error (.number e)⟩

/-- Answer a request. -/
def runRequest (compile : DocumentCompiler) (c : Call) (request : Request) (sessions : Sessions) :
    CallResult :=
  let (sessions, r) := c.resolve request sessions
  match r.draft.toDocument with
  | .error (.measureTooLarge e) => ⟨sessions, [], .error (.number e)⟩
  | .error e =>
      ⟨sessions, [c.event (some e.message) (some r.draft.entryFile) 0 false],
       .ok (.failed e.message r.draft.info.fields r.draft.defaultProps r.draft.inputProps)⟩
  | .ok d =>
      c.answerCompiled request r d (sessions.remember c.sessionId d) (compile d.files d.entryFile)

/-- Answer a call. -/
def run (compile : DocumentCompiler) (c : Call) (sessions : Sessions) : CallResult :=
  match Request.ofValue c.payload with
  | .error (.unwritableMode e) => ⟨sessions, [], .error (.tooManyDigits e)⟩
  | .error e =>
      let message := "Invalid input: " ++ e.message
      ⟨sessions, [c.event (some message) none 0 false], .ok (.failed message [] [] [])⟩
  | .ok request => c.runRequest compile request sessions

end Call
end VideoBundle
