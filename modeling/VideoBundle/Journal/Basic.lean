import VideoBundle.Journal.Event
import VideoBundle.Json.Reader

/-!
# The journal

Compile attempts are kept in an external document store.  The journal is off until it has opened its
collection, and it goes off again at the first write that fails, until it is opened anew.  The reason
why it is off is kept.

Credentials come from a file or from a JSON text, and are worked out once.
-/

namespace VideoBundle

/-- Credentials of a service account, as far as the journal needs them. -/
structure Credentials where
  projectId : Value String

/-- The library that makes credentials. -/
structure CredentialLibrary where
  ofInfo : Fields → Except String Credentials
  ofFile : (path : String) → Except String Credentials

namespace Credentials

/-- The fields that the information on a service account must have. -/
def requiredFields : List String := ["type", "project_id", "private_key", "client_email"]

/-- Whether credentials name a project. -/
def namesProject (c : Credentials) : Bool := c.projectId.isTruthy

/-- Credentials from the file that a variable names, with a warning if they cannot be made. -/
def fromFile (library : CredentialLibrary) (file : Option String) :
    Option Credentials × List String :=
  match file with
  | none => (none, [])
  | some path =>
      match library.ofFile path with
      | .ok c => (some c, [])
      | .error problem =>
          (none, ["Failed to load Google credentials from " ++ path ++ ": " ++ problem])

/-- Credentials from a JSON text, with a warning if they cannot be made. -/
def fromText (library : CredentialLibrary) (text : Option String) :
    Option Credentials × List String :=
  match text.map Json.decode with
  | some (.ok (.object info)) =>
      if requiredFields.all fun field => (lookupEntry field info).isSome then
        match library.ofInfo info with
        | .ok c => (some c, [])
        | .error problem =>
            (none, ["Failed to construct Google credentials from GOOGLE_CREDENTIALS_JSON: " ++
              problem])
      else (none, [])
  | _ => (none, [])

/-- Credentials from a file, else from a JSON text. -/
def find (library : Option CredentialLibrary) (file text : Option String) :
    Option Credentials × List String :=
  match library with
  | none => (none, [])
  | some library =>
      match fromFile library file with
      | (some c, warnings) => (some c, warnings)
      | (none, warnings) =>
          let (c, more) := fromText library text
          (c, warnings ++ more)

end Credentials

/-- The document store and the settings with which a journal works. -/
structure JournalHost where
  enabled : Bool
  collection : String
  project : Option String
  credentials : Option Credentials
  credentialWarnings : List String
  installed : Bool
  /-- Why no connection can be made. -/
  connectError : Option String
  /-- Why the collection cannot be read when it is opened. -/
  openError : Option String
  /-- Why a document, counted from one, cannot be written. -/
  writeError : Nat → Option String

/-- The state of a journal. -/
structure Journal where
  active : Bool
  reason : Option String
  connected : Bool
  credentialsRead : Bool
  /-- Documents that were begun. -/
  documents : Nat
deriving DecidableEq

/-- What a journal does to the world. -/
inductive JournalEffect where
  | warned (text : String)
  | connected (project : Value String) (credentials : Option Credentials)
  | opened (collection : String)
  | wrote (payload : Fields)
  /-- The store did not take a document. -/
  | refused (payload : Fields) (problem : String)

/-- An event in the journal, as the host is told of it. -/
structure JournalEntry where
  document : String
  session : Option String
  tool : String
  result : String
  entryFile : Option String
  fileCount : Int
  usedPrevious : Bool
  error : Option String
deriving DecidableEq

/-- The fields of an entry, apart from the name of its document. -/
def JournalEntry.payload (e : JournalEntry) : Fields :=
  [("session_id", CompileEvent.textOrNull e.session), ("tool", .text e.tool),
   ("result", .text e.result), ("entry_file", CompileEvent.textOrNull e.entryFile),
   ("file_count", .number (.int e.fileCount)), ("used_previous", .bool e.usedPrevious),
   ("error", CompileEvent.textOrNull e.error)]

/-- The entry of an event that was written to a document. -/
def CompileEvent.entry (document : String) (e : CompileEvent) : JournalEntry where
  document := document
  session := trimmed? e.session
  tool := (trimmed? e.tool).getD "unknown"
  result := resultWord e.result
  entryFile := e.entryFile
  fileCount := e.fileCount
  usedPrevious := e.usedPrevious
  error := cutError e.error

/-- What an operation on a journal leaves. -/
structure JournalStep (α : Type) where
  journal : Journal
  effects : List JournalEffect
  answer : α

namespace Journal

/-- The journal before it is opened. -/
def initial : Journal := ⟨false, none, false, false, 0⟩

/-- Whether the journal is on, and why not. -/
def status (j : Journal) : Bool × Option String := (j.active, j.reason)

/-- Work the credentials out, which warns only once. -/
def readCredentials (host : JournalHost) (j : Journal) : JournalStep (Option Credentials) :=
  if j.credentialsRead then ⟨j, [], host.credentials⟩
  else
    ⟨{ j with credentialsRead := true }, host.credentialWarnings.map .warned, host.credentials⟩

/-- The wording for a store whose library is missing. -/
def notInstalledMessage : String := "google-cloud-firestore must be installed for compile logging"

/-- The wording for a store without a project. -/
def noProjectMessage : String :=
  "Project ID for Firestore compile logging is not configured. Set GCP_PROJECT_ID."

/-- The project of the store: the configured one, else that of the credentials. -/
def projectOf (host : JournalHost) : Option (Value String) :=
  match host.project with
  | some project => some (.text project)
  | none => (host.credentials.filter Credentials.namesProject).map Credentials.projectId

/-- Connect to the store, unless that is done. -/
def connect (host : JournalHost) (j : Journal) : JournalStep (Except String Unit) :=
  if j.connected then ⟨j, [], .ok ()⟩
  else if !host.installed then ⟨j, [], .error notInstalledMessage⟩
  else
    let reading := readCredentials host j
    match projectOf host, host.connectError with
    | none, _ => ⟨reading.journal, reading.effects, .error noProjectMessage⟩
    | some _, some problem => ⟨reading.journal, reading.effects, .error problem⟩
    | some project, none =>
        ⟨{ reading.journal with connected := true },
         reading.effects ++ [.connected project host.credentials], .ok ()⟩

/-- Connect to the store and name the collection. -/
def openCollection (host : JournalHost) (j : Journal) : JournalStep (Except String Unit) :=
  let connecting := connect host j
  match connecting.answer with
  | .error problem => ⟨connecting.journal, connecting.effects, .error problem⟩
  | .ok () => ⟨connecting.journal, connecting.effects ++ [.opened host.collection], .ok ()⟩

/-- Go off for a reason; warns when the journal was on. -/
def disable (reason : String) (j : Journal) : JournalStep Unit :=
  ⟨{ j with active := false, reason := some reason },
   if j.active then [.warned ("Disabling compile logging: " ++ reason)] else [], ()⟩

/-- Open the journal. -/
def start (host : JournalHost) (j : Journal) : JournalStep Unit :=
  if !host.enabled then disable "COMPILE_LOG_ENABLED is false" j
  else
    let opening := openCollection host j
    match opening.answer.bind fun _ =>
        match host.openError with
        | some problem => .error problem
        | none => .ok () with
    | .error problem =>
        let step := disable problem opening.journal
        ⟨step.journal, opening.effects ++ step.effects, ()⟩
    | .ok () => ⟨{ opening.journal with active := true, reason := none }, opening.effects, ()⟩

/-- Go off because an event could not be written. -/
def refuse (tool : Option String) (problem : String) (j : Journal) (effects : List JournalEffect) :
    JournalStep (Option JournalEntry) :=
  let step := disable problem j
  ⟨step.journal,
   effects ++ step.effects ++
     [.warned ("Failed to log compile event (" ++ tool.getD "None" ++ "): " ++ problem)], none⟩

/-- Write an event, if the journal is on. -/
def record (host : JournalHost) (event : CompileEvent) (j : Journal) :
    JournalStep (Option JournalEntry) :=
  if !j.active then ⟨j, [], none⟩
  else
    let opening := openCollection host j
    match opening.answer with
    | .error problem => refuse event.tool problem opening.journal opening.effects
    | .ok () =>
        let number := opening.journal.documents + 1
        let j := { opening.journal with documents := number }
        match host.writeError number with
        | some problem =>
            refuse event.tool problem j (opening.effects ++ [.refused event.payload problem])
        | none =>
            ⟨j, opening.effects ++ [.wrote event.payload],
             some (event.entry ("doc" ++ toString number))⟩

/-- Write the event that an object's entries describe; they are read only if the journal is on. -/
def recordFields (host : JournalHost) (fields : Fields) (j : Journal) :
    JournalStep (Except CountError (Option JournalEntry)) :=
  if !j.active then ⟨j, [], .ok none⟩
  else
    match CompileEvent.ofFields fields with
    | .error e => ⟨j, [], .error e⟩
    | .ok event =>
        let step := record host event j
        ⟨step.journal, step.effects, .ok step.answer⟩

end Journal
end VideoBundle
