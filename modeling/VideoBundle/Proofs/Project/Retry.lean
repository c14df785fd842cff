import VideoBundle.Proofs.Project.Deletion
import VideoBundle.Proofs.Project.Effects

/-!
# Sending a request again

A request that is sent a second time is laid over the document that it has led to itself.  Every field
then takes the value that it has already, and the files come out of the merge and the deletions as they
went in.  So nothing moves, and the artifact is the same.

Main results:

- `draft_again`: a request laid over its own document gives the same draft.
- `sessions_prepare_again`: the sessions after the second call are those after the first.
- `run_retry`: the second call changes nothing and gets the same artifact.
-/

namespace VideoBundle

/-- A value that was chosen over another is chosen over itself. -/
theorem getD_again {α : Type} {given : Option α} {below chosen : α} (h : given.getD below = chosen) :
    given.getD chosen = chosen := by
  cases given with
  | none => rfl
  | some a => exact h

/-! ## Drafts -/

namespace Resolution

variable {request : Request} {base previous : Option Document} {d : Document}

/-- The files that a request leaves: laid over those of the project that is reused, less the deleted
ones. -/
def keptFiles (request : Request) (base : Option Document) : Option ProjectFiles :=
  (laidFiles request base).map fun laid => (ProjectFiles.delete laid request.deleteFiles).1

/-- Laying the same information over its own result changes nothing. -/
theorem laidMeta_again (h : laidMeta request base = d.info) :
    laidMeta request (some d) = d.info := by
  rw [← h]
  simp only [laidMeta, Option.map_some, Option.getD_some, ← h, getD_again rfl]

/-- Without files of its own a request leaves the files of its document. -/
theorem keptFiles_again_of_none (hfiles : request.files = none)
    (h : keptFiles request base = some d.files) : keptFiles request (some d) = some d.files := by
  obtain ⟨laid, _, hlaid⟩ := Option.map_eq_some_iff.1 h
  have hagain : laidFiles request (some d) = some d.files := by
    simp [laidFiles, hfiles]
  rw [keptFiles, hagain, Option.map_some, ← hlaid, ProjectFiles.delete, ProjectFiles.delete,
    ProjectFiles.deleteKeys_deleteKeys]

/-- In a merge the files of the request may be deleted by the request itself. -/
theorem keptFiles_again_of_merge {top : ProjectFiles} (hfiles : request.files = some top)
    (hmode : request.updateMode = .merge) (h : keptFiles request base = some d.files) :
    keptFiles request (some d) = some d.files := by
  -- Laying files over no project is merging them into no files.
  obtain ⟨below, hbelow⟩ : ∃ below : ProjectFiles,
      laidFiles request base = some (below.overlay top) := by
    cases base with
    | none => exact ⟨OrderedMap.empty, by simp [laidFiles, hfiles]⟩
    | some base => exact ⟨base.files, by simp [laidFiles, hfiles, hmode]⟩
  have hagain : laidFiles request (some d) = some (d.files.overlay top) := by
    simp [laidFiles, hfiles, hmode]
  rw [keptFiles, hbelow, Option.map_some, Option.some.injEq, ProjectFiles.delete] at h
  rw [keptFiles, hagain, Option.map_some, ProjectFiles.delete, ← h,
    ProjectFiles.deleteKeys_overlay]

/-- In replace mode the files do not depend on what was there. -/
theorem keptFiles_again_of_replace {top : ProjectFiles} (hfiles : request.files = some top)
    (hmode : request.updateMode = .replace) :
    keptFiles request (some d) = keptFiles request base := by
  cases base <;> simp [keptFiles, laidFiles, hfiles, hmode]

/-- Sent again, a request keeps the files that it has kept. -/
theorem keptFiles_again (h : keptFiles request base = some d.files) :
    keptFiles request (some d) = some d.files := by
  cases hfiles : request.files with
  | none => exact keptFiles_again_of_none hfiles h
  | some top =>
      cases hmode : request.updateMode with
      | merge => exact keptFiles_again_of_merge hfiles hmode h
      | replace => rw [keptFiles_again_of_replace hfiles hmode, h]

/-- A request laid over the document that it has led to gives the same draft. -/
theorem draft_again (h : (ofRequest request previous).draft.toDocument = .ok d) :
    (ofRequest request (some d)).draft = (ofRequest request previous).draft := by
  have hdraft := (Draft.toDocument_eq_ok_iff.1 h).1
  cases hreuse : request.usePreviousProject with
  | false => simp [ofRequest, hreuse]
  | true =>
      rw [hdraft]
      simp only [ofRequest, hreuse, if_true, Option.map_map, Draft.mk.injEq, Option.map_some,
        Option.getD_some] at hdraft ⊢
      obtain ⟨hinfo, hentry, hfiles, hdefault, hinput⟩ := hdraft
      exact ⟨laidMeta_again hinfo, getD_again hentry, keptFiles_again hfiles, getD_again hdefault,
        getD_again hinput⟩

end Resolution

/-! ## Calls -/

namespace Call

variable {c : Call} {request : Request} {s : Sessions}

/-- The artifact of a call depends on its payload and its draft alone. -/
theorem artifact_run_congr (compile : DocumentCompiler) {c c' : Call} {s s' : Sessions}
    (hpayload : c'.payload = c.payload)
    (hdraft : ∀ request, Request.ofValue c.payload = .ok request →
      c'.draft request s' = c.draft request s) :
    (c'.run compile s').answer.map Response.artifact =
      (c.run compile s).answer.map Response.artifact := by
  unfold run
  rw [hpayload]
  cases hrequest : Request.ofValue c.payload with
  | error e => cases e <;> rfl
  | ok request =>
      have hsame := hdraft request hrequest
      simp only [draft] at hsame
      simp only [runRequest, resolve_eq, hsame]
      cases (Resolution.ofRequest request
          ((c.resetSessions request s).find? c.sessionId)).draft.toDocument with
      | error e => cases e <;> rfl
      | ok d =>
          simp only [answerCompiled, Status.ofDocument]
          cases compile d.files d.entryFile with
          | error e => cases e <;> rfl
          | ok bundle => cases Status.seconds d.info <;> rfl

theorem resetSessions_resetSessions (c : Call) (request : Request) (s : Sessions) :
    c.resetSessions request (c.resetSessions request s) = c.resetSessions request s := by
  unfold resetSessions
  cases request.resetProject <;> simp

/-- A reset is forgotten when the session is remembered. -/
theorem remember_resetSessions (c : Call) (request : Request) (s : Sessions) (d : Document) :
    (c.resetSessions request s).remember c.sessionId d = s.remember c.sessionId d := by
  unfold resetSessions
  split
  · exact Sessions.remember_clear s c.sessionId d c.sessionId_ne_empty
  · rfl

/-- A request that is laid over the sessions that it has left has the same draft. -/
theorem draft_prepare (hcapacity : 0 < s.capacity)
    (hrequest : Request.ofValue c.payload = .ok request) :
    c.draft request (c.prepare s).1 = c.draft request s := by
  rw [sessions_prepare_of_ok hrequest]
  cases hdocument : (c.draft request s).toDocument with
  | error e => rw [draft, resetSessions_resetSessions, draft]
  | ok d =>
      dsimp only
      rw [draft, find?_resetSessions] at hdocument
      rw [remember_resetSessions, draft, draft, find?_resetSessions, find?_resetSessions,
        Sessions.find?_remember_self c.sessionId_ne_empty hcapacity]
      cases hreset : request.resetProject with
      | true => simp
      | false => simpa [hreset] using Resolution.draft_again (by simpa [hreset] using hdocument)

/-- The sessions after the second call are those after the first. -/
theorem sessions_prepare_again (hcapacity : 0 < s.capacity) (c : Call) :
    (c.prepare (c.prepare s).1).1 = (c.prepare s).1 := by
  cases hrequest : Request.ofValue c.payload with
  | error e => rw [sessions_prepare_of_error hrequest]
  | ok request =>
      rw [sessions_prepare_of_ok hrequest, draft_prepare hcapacity hrequest,
        sessions_prepare_of_ok hrequest]
      cases (c.draft request s).toDocument with
      | error e => exact resetSessions_resetSessions c request s
      | ok d =>
          dsimp only
          rw [remember_resetSessions, remember_resetSessions,
            Sessions.remember_remember hcapacity]

/-- The name of the tool does not matter to the sessions. -/
theorem sessions_prepare_congr {c c' : Call} (hpayload : c'.payload = c.payload)
    (hsession : c'.sessionId = c.sessionId) (s : Sessions) :
    (c'.prepare s).1 = (c.prepare s).1 := by
  cases hrequest : Request.ofValue c.payload with
  | error e =>
      rw [sessions_prepare_of_error hrequest, sessions_prepare_of_error (hpayload ▸ hrequest)]
  | ok request =>
      rw [sessions_prepare_of_ok hrequest, sessions_prepare_of_ok (hpayload ▸ hrequest)]
      simp only [draft, resetSessions, hsession]

/-- A payload that is sent again to the same session, perhaps through another tool, leaves the sessions
as they are, and the artifact is the same. -/
theorem run_retry (compile : DocumentCompiler) {first again : Call} {s : Sessions}
    (hcapacity : 0 < s.capacity) (hpayload : again.payload = first.payload)
    (hsession : again.sessionId = first.sessionId) :
    let before := first.run compile s
    let after := again.run compile before.sessions
    after.sessions = before.sessions ∧
      after.answer.map Response.artifact = before.answer.map Response.artifact := by
  dsimp only
  rw [sessions_run, sessions_run, sessions_prepare_congr hpayload hsession]
  refine ⟨sessions_prepare_again hcapacity first, ?_⟩
  refine artifact_run_congr compile hpayload fun request hrequest => ?_
  calc again.draft request (first.prepare s).1
      = first.draft request (first.prepare s).1 := by simp only [draft, resetSessions, hsession]
    _ = first.draft request s := draft_prepare hcapacity hrequest

/-- A call that edits a file, adds two, and deletes one of these and an old one. -/
def editingCall (tool : String) : Call where
  payload := .object
    [("files", .object [("/b.ts", .text "new b;"), ("/c.ts", .text "c;"), ("/d.ts", .text "d;")]),
     ("deleteFiles", .list [.text "c.ts", .text "/a.ts"])]
  session := none
  tool := tool

/-- Sessions with a project of two files. -/
def editedSessions : Sessions :=
  (Sessions.empty 2).remember "default"
    ⟨Meta.standard, "/b.ts", OrderedMap.ofList [("/a.ts", "a;"), ("/b.ts", "b;")], [], []⟩

/-- The second call merges into a project from which its own file is deleted, and deletes it again. -/
theorem run_retry_editing :
    0 < editedSessions.capacity ∧
      (editingCall "update_video").payload = (editingCall "create_video").payload ∧
        (editingCall "update_video").sessionId = (editingCall "create_video").sessionId ∧
          let before := (editingCall "create_video").run constantCompiler editedSessions
          let after := (editingCall "update_video").run constantCompiler before.sessions
          (after.sessions = before.sessions ∧
            after.answer.map Response.artifact = before.answer.map Response.artifact) ∧
              before.answer.toBool = true ∧
                (before.sessions.find? "default").map (fun d => d.files.keys) =
                  some ["/b.ts", "/d.ts"] :=
  ⟨by decide, rfl, rfl, run_retry constantCompiler (by decide) rfl rfl, by decide +kernel,
    by decide +kernel⟩

end Call
end VideoBundle
