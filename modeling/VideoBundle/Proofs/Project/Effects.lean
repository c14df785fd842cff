import VideoBundle.Project.Service
import VideoBundle.Proofs.Project.Answers
import VideoBundle.Proofs.Project.Sessions

/-!
# What a call does to the sessions

A call looks at the sessions once, in its first part; the compiler only decides on the reply.

Main results:

- `run_eq_finish`: a call is its first part followed by the rest.
- `prepare_cases`: the first part leaves the sessions, forgets its own, or remembers a document.
- `run_sessions`: the sessions after a call, on every path, and what becomes of the other sessions.
- `Job.bounded_runAll`: calls keep the sessions within their capacity.
-/

namespace VideoBundle

namespace Progress

/-- Finishing a call does not touch the store. -/
@[simp]
theorem sessions_finish (j : Job) (sessions : Sessions) (p : Progress) :
    (p.finish j sessions).sessions = sessions := by
  cases p with
  | compiling request r d =>
      simp only [finish, Call.answerCompiled]
      split <;> rfl
  | recording reply => rfl

/-- The reply does not depend on the sessions that are there when the compiler is done. -/
theorem reply_finish (j : Job) (sessions others : Sessions) (p : Progress) :
    (p.finish j sessions).reply = (p.finish j others).reply := by
  cases p with
  | compiling request r d =>
      simp only [finish, Call.answerCompiled]
      split <;> rfl
  | recording reply => rfl

end Progress

namespace Call

variable {compile : DocumentCompiler} {c : Call} {request : Request} {s others : Sessions}

/-- A call has a session, the standard one if it names none. -/
theorem sessionId_ne_empty (c : Call) : c.sessionId ≠ "" := by
  unfold sessionId
  cases hsession : c.session.filter (· != "") with
  | none => simp [standardSession]
  | some session =>
      simpa using (Option.filter_eq_some_iff.1 hsession).2

/-! ## The two parts of a call -/

/-- The sessions on which a request is laid: its own is forgotten first when it asks for that. -/
def resetSessions (c : Call) (request : Request) (s : Sessions) : Sessions :=
  if request.resetProject then s.clear c.sessionId else s

/-- The draft of a request that is laid over the document of its session. -/
def draft (c : Call) (request : Request) (s : Sessions) : Draft :=
  (Resolution.ofRequest request ((c.resetSessions request s).find? c.sessionId)).draft

/-- A request is resolved on the store that its own reset has left. -/
theorem resolve_eq (c : Call) (request : Request) (s : Sessions) :
    c.resolve request s = (c.resetSessions request s,
      Resolution.ofRequest request ((c.resetSessions request s).find? c.sessionId)) := rfl

/-- A call is its first part followed by the rest. -/
theorem run_eq_finish (compile : DocumentCompiler) (c : Call) (s : Sessions) :
    c.run compile s = (c.prepare s).2.finish ⟨c, compile⟩ (c.prepare s).1 := by
  unfold run prepare
  cases Request.ofValue c.payload with
  | error e => cases e <;> rfl
  | ok request =>
      simp only [runRequest]
      cases (c.resolve request s).2.draft.toDocument with
      | error e => cases e <;> rfl
      | ok d => rfl

/-- All that a call does to the store is done while it is prepared. -/
theorem sessions_run (compile : DocumentCompiler) (c : Call) (s : Sessions) :
    (c.run compile s).sessions = (c.prepare s).1 := by
  rw [run_eq_finish, Progress.sessions_finish]

/-! ## The sessions after a call -/

/-- A request that cannot be read leaves the store as it was. -/
theorem sessions_prepare_of_error {e : RequestError} (h : Request.ofValue c.payload = .error e) :
    (c.prepare s).1 = s := by
  unfold prepare
  rw [h]
  cases e <;> rfl

/-- A request that was read resets its session and remembers the document, if there is one. -/
theorem sessions_prepare_of_ok (h : Request.ofValue c.payload = .ok request) :
    (c.prepare s).1 =
      match (c.draft request s).toDocument with
      | .error _ => c.resetSessions request s
      | .ok d => (c.resetSessions request s).remember c.sessionId d := by
  simp only [prepare, h, resolve_eq, draft]
  cases (Resolution.ofRequest request
      ((c.resetSessions request s).find? c.sessionId)).draft.toDocument with
  | error e => cases e <;> rfl
  | ok d => rfl

@[simp]
theorem capacity_resetSessions (c : Call) (request : Request) (s : Sessions) :
    (c.resetSessions request s).capacity = s.capacity := by
  unfold resetSessions
  split <;> rfl

/-- A reset forgets the call's own session only. -/
theorem find?_resetSessions (c : Call) (request : Request) (s : Sessions) (other : String) :
    (c.resetSessions request s).find? other =
      if request.resetProject = true ∧ other = c.sessionId then none else s.find? other := by
  unfold resetSessions
  cases request.resetProject <;> simp

theorem bounded_resetSessions (h : s.Bounded) (c : Call) (request : Request) :
    (c.resetSessions request s).Bounded := by
  unfold resetSessions
  split
  · exact h.clear _
  · exact h

/-- What the first part of a call can do: leave the sessions, forget its own, or remember a document. -/
theorem prepare_cases (c : Call) (s : Sessions) :
    (∃ e, Request.ofValue c.payload = .error e ∧ (c.prepare s).1 = s) ∨
      ∃ request, Request.ofValue c.payload = .ok request ∧
        ((∃ e, (c.draft request s).toDocument = .error e ∧
            (c.prepare s).1 = c.resetSessions request s) ∨
          ∃ d, (c.draft request s).toDocument = .ok d ∧
            (c.prepare s).1 = (c.resetSessions request s).remember c.sessionId d) := by
  cases hrequest : Request.ofValue c.payload with
  | error e => exact .inl ⟨e, rfl, sessions_prepare_of_error hrequest⟩
  | ok request =>
      refine .inr ⟨request, rfl, ?_⟩
      rw [sessions_prepare_of_ok hrequest]
      cases (c.draft request s).toDocument with
      | error e => exact .inl ⟨e, rfl, rfl⟩
      | ok d => exact .inr ⟨d, rfl, rfl⟩

/-- A call keeps the capacity. -/
theorem capacity_prepare (c : Call) (s : Sessions) : (c.prepare s).1.capacity = s.capacity := by
  obtain ⟨_, _, hs⟩ | ⟨request, _, ⟨_, _, hs⟩ | ⟨d, _, hs⟩⟩ := prepare_cases c s <;> simp [hs]

/-- A call keeps the store within its capacity. -/
theorem bounded_prepare (h : s.Bounded) (c : Call) : (c.prepare s).1.Bounded := by
  obtain ⟨_, _, hs⟩ | ⟨request, _, ⟨_, _, hs⟩ | ⟨d, _, hs⟩⟩ := prepare_cases c s <;> rw [hs]
  · exact h
  · exact bounded_resetSessions h c request
  · exact (bounded_resetSessions h c request).remember _ _

/-- Another session keeps its document, unless it is crowded out by the session of the call. -/
theorem find?_prepare_of_ne (hcapacity : 0 < s.capacity) {other : String}
    (hother : other ≠ c.sessionId) :
    (c.prepare s).1.find? other = s.find? other ∨
      ((c.prepare s).1.find? other = none ∧
        ∃ request d, Request.ofValue c.payload = .ok request ∧
          (c.draft request s).toDocument = .ok d ∧
            other ∈ (c.resetSessions request s).crowdedOut c.sessionId) := by
  obtain ⟨_, _, hs⟩ | ⟨request, hrequest, ⟨_, _, hs⟩ | ⟨d, hd, hs⟩⟩ := prepare_cases c s <;> rw [hs]
  · exact .inl rfl
  · exact .inl (by simp [find?_resetSessions, hother])
  · rw [Sessions.find?_remember c.sessionId_ne_empty (by simpa using hcapacity), if_neg hother]
    split
    · rename_i hcrowded
      exact .inr ⟨rfl, request, d, hrequest, hd, hcrowded⟩
    · exact .inl (by simp [find?_resetSessions, hother])

/-- The sessions after a call.  A payload that is no request leaves them as they are; a draft that is no
document leaves them with the reset that was asked for; else the document is remembered, whatever the
compiler says.  Another session keeps its document; only the one that was remembered least recently is
forgotten, when the session of the call is new to a full house. -/
theorem run_sessions (compile : DocumentCompiler) (c : Call) (s : Sessions) :
    (∀ e, Request.ofValue c.payload = .error e → (c.run compile s).sessions = s) ∧
      (∀ request, Request.ofValue c.payload = .ok request →
        let before := if request.resetProject then s.clear c.sessionId else s
        let draft := (Resolution.ofRequest request (before.find? c.sessionId)).draft
        (∀ e, draft.toDocument = .error e → (c.run compile s).sessions = before) ∧
          ∀ d, draft.toDocument = .ok d →
            (c.run compile s).sessions = before.remember c.sessionId d) ∧
      (s.Bounded → ∀ other, other ≠ c.sessionId →
        (c.run compile s).sessions.find? other = s.find? other ∨
          ((c.run compile s).sessions.find? other = none ∧
            ∃ request, Request.ofValue c.payload = .ok request ∧
              let before := if request.resetProject then s.clear c.sessionId else s
              before.contains c.sessionId = false ∧ before.size = before.capacity ∧
                before.ids.head? = some other)) := by
  rw [sessions_run]
  refine ⟨fun e he => sessions_prepare_of_error he, fun request hrequest => ?_,
    fun hbounded other hother => ?_⟩
  · have hs := sessions_prepare_of_ok (s := s) hrequest
    constructor
    · intro e he
      rw [hs, show (c.draft request s).toDocument = .error e from he]
      rfl
    · intro d hd
      rw [hs, show (c.draft request s).toDocument = .ok d from hd]
      rfl
  · refine (find?_prepare_of_ne hbounded.capacity_pos hother).imp_right ?_
    rintro ⟨hgone, request, d, hrequest, _, hcrowded⟩
    exact ⟨hgone, request, hrequest,
      (Sessions.mem_crowdedOut_iff (bounded_resetSessions hbounded c request)).1 hcrowded⟩

/-- A full house with one session. -/
def fullHouse : Sessions :=
  (Sessions.empty 1).remember "other"
    ⟨Meta.standard, standardEntryFile, OrderedMap.ofList [("/a.ts", "a;")], [], []⟩

/-- A session that is new to a full house takes the place of the one that is there. -/
theorem run_sessions_fullHouse :
    fullHouse.Bounded ∧ "other" ≠ (callOfWidth 640).sessionId ∧
      (∃ request d, Request.ofValue (callOfWidth 640).payload = .ok request ∧
        ((callOfWidth 640).draft request fullHouse).toDocument = .ok d ∧
          ((callOfWidth 640).run constantCompiler fullHouse).sessions =
            ((callOfWidth 640).resetSessions request fullHouse).remember "default" d) ∧
        ((callOfWidth 640).run constantCompiler fullHouse).sessions.find? "other" = none ∧
          ∃ request, ((callOfWidth 640).resetSessions request fullHouse).ids.head? =
            some "other" := by
  have hbounded : fullHouse.Bounded := ⟨by decide, by decide⟩
  have hother : "other" ≠ (callOfWidth 640).sessionId := by decide
  obtain ⟨_, hok, hothers⟩ := run_sessions constantCompiler (callOfWidth 640) fullHouse
  have hforgotten :
      ((callOfWidth 640).run constantCompiler fullHouse).sessions.find? "other" = none := by
    decide +kernel
  refine ⟨hbounded, hother, ?_, hforgotten, ?_⟩
  · have hdocument : (match Request.ofValue (callOfWidth 640).payload with
        | .ok request => ((callOfWidth 640).draft request fullHouse).toDocument.toBool
        | .error _ => false) = true := by
      decide +kernel
    split at hdocument
    · rename_i request hrequest
      cases hd : ((callOfWidth 640).draft request fullHouse).toDocument with
      | error e => simp [hd, Except.toBool] at hdocument
      | ok d => exact ⟨request, d, hrequest, hd, (hok request hrequest).2 d hd⟩
    · cases hdocument
  · obtain hkept | ⟨_, request, _, _, _, hfirst⟩ := hothers hbounded "other" hother
    · have hpresent : fullHouse.find? "other" ≠ none := by decide
      exact absurd (hkept ▸ hforgotten) hpresent
    · exact ⟨request, hfirst⟩

end Call

/-- Calls keep the sessions within their capacity. -/
theorem Job.bounded_runAll {s : Sessions} (h : s.Bounded) (jobs : List Job) :
    (runAll s jobs).1.Bounded := by
  induction jobs generalizing s with
  | nil => exact h
  | cons j jobs ih =>
      have hnext : (j.run s).sessions = (j.call.prepare s).1 := j.call.sessions_run j.compile s
      exact ih (hnext ▸ Call.bounded_prepare h j.call)

end VideoBundle
