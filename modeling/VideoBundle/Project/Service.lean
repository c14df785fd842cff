import VideoBundle.Project.Call

/-!
# Calls that overlap in time

A service takes many calls at once.  It runs one call at a time and changes to another only where a
call waits: for the lock of its session, for the compiler, or for the journal.  Calls of one session
take turns under a lock, first come, first served.  The service looks a lock up under the name of its
session, makes it when there is none, and may forget the name as soon as no call refers to the lock.

A compile may wait many times.  It neither reads nor changes what calls share, so one move, which comes
any time later, stands for the whole of it.  Coming, being given a lock that is free and looking at the
sessions are moves of their own, between which other calls may move as well.

- `Call.prepare` is the part of a call before it waits for the compiler or the journal.
- `Service.step?` makes one move of one call; `Service.run?` makes moves one after another.
- `Job.runAll` is the plain service: it answers calls one after another.
-/

namespace VideoBundle

/-! ## One call after another -/

/-- A call with the compiler that serves it. -/
structure Job where
  call : Call
  compile : DocumentCompiler

/-- What a call leaves besides the sessions. -/
structure Reply where
  events : List CompileEvent
  answer : Except Fault Response

/-- What the result of a call holds besides the sessions. -/
def CallResult.reply (r : CallResult) : Reply := ⟨r.events, r.answer⟩

namespace Job

/-- The session of a job. -/
def session (j : Job) : String := j.call.sessionId

/-- Answer a job. -/
def run (j : Job) (sessions : Sessions) : CallResult := j.call.run j.compile sessions

/-- Answer jobs one after another. -/
def runAll (sessions : Sessions) : List Job → Sessions × List Reply
  | [] => (sessions, [])
  | j :: jobs =>
      let result := j.run sessions
      let (sessions, replies) := runAll result.sessions jobs
      (sessions, result.reply :: replies)

/-- The first job runs on the given sessions, the others on those that it leaves. -/
theorem runAll_cons (sessions : Sessions) (j : Job) (jobs : List Job) :
    runAll sessions (j :: jobs) = ((runAll (j.run sessions).sessions jobs).1,
      (j.run sessions).reply :: (runAll (j.run sessions).sessions jobs).2) := rfl

end Job

/-! ## The parts of a call -/

/-- Where a call stands that has looked at the sessions. -/
inductive Progress where
  /-- A document is remembered, and the call waits for the compiler. -/
  | compiling (request : Request) (resolution : Resolution) (document : Document)
  /-- The reply is made, and the call waits for the journal. -/
  | recording (reply : Reply)

/-- The part of a call before it waits for the compiler or the journal: the request is checked and laid
over the session's document, and the outcome is remembered. -/
def Call.prepare (c : Call) (sessions : Sessions) : Sessions × Progress :=
  match Request.ofValue c.payload with
  | .error (.unwritableMode e) => (sessions, .recording ⟨[], .error (.tooManyDigits e)⟩)
  | .error e =>
      let message := "Invalid input: " ++ e.message
      (sessions,
        .recording ⟨[c.event (some message) none 0 false], .ok (.failed message [] [] [])⟩)
  | .ok request =>
      let (sessions, r) := c.resolve request sessions
      match r.draft.toDocument with
      | .error (.measureTooLarge e) => (sessions, .recording ⟨[], .error (.number e)⟩)
      | .error e =>
          (sessions,
            .recording ⟨[c.event (some e.message) (some r.draft.entryFile) 0 false],
              .ok (.failed e.message r.draft.info.fields r.draft.defaultProps
                r.draft.inputProps)⟩)
      | .ok d => (sessions.remember c.sessionId d, .compiling request r d)

namespace Progress

/-- The rest of a call: the document is compiled and the reply made, unless it is made already. -/
def finish (j : Job) (sessions : Sessions) : Progress → CallResult
  | compiling request r d =>
      j.call.answerCompiled request r d sessions (j.compile d.files d.entryFile)
  | recording reply => ⟨sessions, reply.events, reply.answer⟩

end Progress

/-! ## Locks and positions -/

/-- A lock: whether a call holds it, and the calls that wait for it in the order in which they came. -/
structure SessionLock (n : Nat) where
  held : Bool
  waiting : List (Fin n)

/-- The lock that nobody holds and nobody waits for. -/
def SessionLock.free {n : Nat} : SessionLock n := ⟨false, []⟩

/-- Where a call stands. -/
inductive Position where
  /-- The call has not come yet. -/
  | outside
  | waiting (lock : Nat)
  /-- The call has been given a lock and has done nothing under it. -/
  | holding (lock : Nat)
  | working (lock : Nat) (progress : Progress)
  | answered (reply : Reply)

namespace Position

/-- The lock under which a call runs. -/
def held? : Position → Option Nat
  | holding lock => some lock
  | working lock _ => some lock
  | _ => none

/-- The lock to which a call refers. -/
def lock? : Position → Option Nat
  | waiting lock => some lock
  | position => position.held?

end Position

/-- A service with `n` calls.  Locks are numbered; the registry gives the lock of a session. -/
structure Service (n : Nat) where
  sessions : Sessions
  registry : OrderedMap String Nat
  locks : Nat → SessionLock n
  /-- How many locks were made. -/
  lockCount : Nat
  position : Fin n → Position

/-- The moves of a call. -/
inductive Move where
  /-- The call comes and gets in line for the lock of its session. -/
  | arrive
  /-- The call is given the lock. -/
  | acquire
  | prepare
  /-- The compiler is done. -/
  | compile
  /-- The journal is written; the call lets go of the lock and is answered. -/
  | leave
deriving DecidableEq, Repr

/-- What can happen to a service. -/
inductive Action (n : Nat) where
  | call (i : Fin n) (move : Move)
  /-- The registry loses the entry of a session. -/
  | forget (session : String)
deriving DecidableEq

namespace Service

variable {n : Nat}

/-- No call has come, and the registry is empty. -/
def start (n : Nat) (sessions : Sessions) : Service n where
  sessions := sessions
  registry := OrderedMap.empty
  locks := fun _ => SessionLock.free
  lockCount := 0
  position := fun _ => .outside

/-- Put a call at a position. -/
def place (s : Service n) (i : Fin n) (p : Position) : Service n :=
  { s with position := fun j => if j = i then p else s.position j }

/-- Placing a call moves no other call. -/
@[simp]
theorem position_place (s : Service n) (i j : Fin n) (p : Position) :
    (s.place i p).position j = if j = i then p else s.position j := rfl

@[simp]
theorem sessions_place (s : Service n) (i : Fin n) (p : Position) :
    (s.place i p).sessions = s.sessions := rfl

@[simp]
theorem registry_place (s : Service n) (i : Fin n) (p : Position) :
    (s.place i p).registry = s.registry := rfl

@[simp]
theorem locks_place (s : Service n) (i : Fin n) (p : Position) :
    (s.place i p).locks = s.locks := rfl

/-- Put a lock into a state. -/
def setLock (s : Service n) (lock : Nat) (state : SessionLock n) : Service n :=
  { s with locks := fun other => if other = lock then state else s.locks other }

@[simp]
theorem locks_setLock (s : Service n) (lock other : Nat) (state : SessionLock n) :
    (s.setLock lock state).locks other = if other = lock then state else s.locks other := rfl

@[simp]
theorem position_setLock (s : Service n) (lock : Nat) (state : SessionLock n) :
    (s.setLock lock state).position = s.position := rfl

@[simp]
theorem sessions_setLock (s : Service n) (lock : Nat) (state : SessionLock n) :
    (s.setLock lock state).sessions = s.sessions := rfl

@[simp]
theorem registry_setLock (s : Service n) (lock : Nat) (state : SessionLock n) :
    (s.setLock lock state).registry = s.registry := rfl

/-- The lock of a session, which is made when the registry has none. -/
def lockOf (s : Service n) (session : String) : Nat × Service n :=
  match s.registry.find? session with
  | some lock => (lock, s)
  | none =>
      (s.lockCount,
        { s with
          registry := s.registry.insert session s.lockCount
          lockCount := s.lockCount + 1 }.setLock s.lockCount SessionLock.free)

/-- Put a call at the end of the line for a lock. -/
def getInLine (s : Service n) (lock : Nat) (i : Fin n) : Service n :=
  (s.setLock lock ⟨(s.locks lock).held, (s.locks lock).waiting ++ [i]⟩).place i (.waiting lock)

/-- A call comes and gets in line. -/
def arrive? (s : Service n) (session : String) (i : Fin n) : Option (Service n) :=
  match s.position i with
  | .outside =>
      let (lock, s) := s.lockOf session
      some (s.getInLine lock i)
  | _ => none

/-- A free lock is given to the call that waits first. -/
def acquire? (s : Service n) (i : Fin n) : Option (Service n) :=
  match s.position i with
  | .waiting lock =>
      match s.locks lock with
      | ⟨false, first :: line⟩ =>
          if first = i then some ((s.setLock lock ⟨true, line⟩).place i (.holding lock)) else none
      | _ => none
  | _ => none

/-- A call looks at the sessions, and remembers. -/
def prepare? (s : Service n) (c : Call) (i : Fin n) : Option (Service n) :=
  match s.position i with
  | .holding lock =>
      let (sessions, progress) := c.prepare s.sessions
      some ({ s with sessions }.place i (.working lock progress))
  | _ => none

/-- The compiler is done with the document of a call. -/
def compile? (s : Service n) (j : Job) (i : Fin n) : Option (Service n) :=
  match s.position i with
  | .working lock (.compiling request r d) =>
      let result := (Progress.compiling request r d).finish j s.sessions
      some ({ s with sessions := result.sessions }.place i
        (.working lock (.recording result.reply)))
  | _ => none

/-- A call lets go of its lock and is answered. -/
def leave? (s : Service n) (i : Fin n) : Option (Service n) :=
  match s.position i with
  | .working lock (.recording reply) =>
      some ((s.setLock lock ⟨false, (s.locks lock).waiting⟩).place i (.answered reply))
  | _ => none

/-- The registry loses an entry whose lock no call refers to. -/
def forget? (s : Service n) (session : String) : Option (Service n) :=
  match s.registry.find? session with
  | some lock =>
      if ∀ i, (s.position i).lock? ≠ some lock then
        some { s with registry := s.registry.erase session }
      else none
  | none => none

/-- One step of a service that serves jobs. -/
def step? (jobs : Fin n → Job) (s : Service n) : Action n → Option (Service n)
  | .call i .arrive => s.arrive? (jobs i).session i
  | .call i .acquire => s.acquire? i
  | .call i .prepare => s.prepare? (jobs i).call i
  | .call i .compile => s.compile? (jobs i) i
  | .call i .leave => s.leave? i
  | .forget session => s.forget? session

/-- Steps one after another. -/
def run? (jobs : Fin n → Job) (s : Service n) : List (Action n) → Option (Service n)
  | [] => some s
  | action :: actions => (s.step? jobs action).bind (run? jobs · actions)

end Service
end VideoBundle
