import Mathlib.Data.List.Perm.Subperm
import VideoBundle.Distinct
import VideoBundle.Proofs.Project.Effects

/-!
# Sessions apart

As long as there is room for every session that is ever named, nobody is crowded out.  Then the jobs of
a session are answered as if the others were not there.

Main results:

- `reply_run_congr`, `find?_prepare_congr`: a call depends on the document of its session alone.
- `Roomy.prepare`, `Roomy.find?_prepare`: with room for all, a call leaves the other sessions alone.
- `runAll_isolated`: the jobs of other sessions can be left out.
-/

namespace VideoBundle

namespace Call

variable {c : Call} {s others : Sessions}

/-! ## What a call depends on -/

/-- What the first part of a call makes depends on the document of its session alone. -/
theorem progress_prepare_congr (h : s.find? c.sessionId = others.find? c.sessionId) :
    (c.prepare s).2 = (c.prepare others).2 := by
  unfold prepare
  cases Request.ofValue c.payload with
  | error e => cases e <;> rfl
  | ok request =>
      have hfind : (c.resetSessions request s).find? c.sessionId =
          (c.resetSessions request others).find? c.sessionId := by
        rw [find?_resetSessions, find?_resetSessions, h]
      simp only [resolve_eq, hfind]
      cases (Resolution.ofRequest request
          ((c.resetSessions request others).find? c.sessionId)).draft.toDocument with
      | error e => cases e <;> rfl
      | ok d => rfl

/-- The reply to a call depends on the document of its session alone. -/
theorem reply_run_congr (compile : DocumentCompiler)
    (h : s.find? c.sessionId = others.find? c.sessionId) :
    (c.run compile s).reply = (c.run compile others).reply := by
  rw [run_eq_finish, run_eq_finish, progress_prepare_congr h]
  exact Progress.reply_finish _ _ _ _

/-- The document that a call leaves for its session depends on the one before alone. -/
theorem find?_prepare_congr (hs : 0 < s.capacity) (hothers : 0 < others.capacity)
    (h : s.find? c.sessionId = others.find? c.sessionId) :
    (c.prepare s).1.find? c.sessionId = (c.prepare others).1.find? c.sessionId := by
  cases hrequest : Request.ofValue c.payload with
  | error e => rw [sessions_prepare_of_error hrequest, sessions_prepare_of_error hrequest, h]
  | ok request =>
      have hfind : (c.resetSessions request s).find? c.sessionId =
          (c.resetSessions request others).find? c.sessionId := by
        rw [find?_resetSessions, find?_resetSessions, h]
      have hdraft : c.draft request s = c.draft request others := by
        rw [draft, draft, hfind]
      rw [sessions_prepare_of_ok hrequest, sessions_prepare_of_ok hrequest, hdraft]
      cases (c.draft request others).toDocument with
      | error e => exact hfind
      | ok d =>
          dsimp only
          rw [Sessions.find?_remember_self c.sessionId_ne_empty (by simpa using hs),
            Sessions.find?_remember_self c.sessionId_ne_empty (by simpa using hothers)]

end Call

/-! ## Room for all -/

/-- All remembered sessions are among some, for each of which there is room. -/
structure Sessions.Roomy (s : Sessions) (known : List String) : Prop where
  ids_subset : s.ids ⊆ known
  length_le : known.length ≤ s.capacity

namespace Sessions.Roomy

variable {s : Sessions} {known : List String}

/-- A known session crowds out nobody in a store with room. -/
theorem crowdedOut (h : s.Roomy known) {id : String} (hid : id ∈ known) : s.crowdedOut id = [] := by
  -- The others and the session itself are different, and all of them are known.
  have hnodup : (id :: s.ids.filter (· ≠ id)).Nodup :=
    List.nodup_cons.2 ⟨by simp, s.documents.distinctKeys.filter _⟩
  have hsubset : id :: s.ids.filter (· ≠ id) ⊆ known :=
    List.cons_subset.2 ⟨hid, fun a ha => h.ids_subset (List.mem_filter.1 ha).1⟩
  have hlength := (List.subperm_of_subset hnodup hsubset).length_le
  rw [List.length_cons] at hlength
  exact crowdedOut_of_lt (Nat.lt_of_lt_of_le hlength h.length_le)

/-- A store with room for a session has a positive capacity. -/
theorem capacity_pos (h : s.Roomy known) {id : String} (hid : id ∈ known) : 0 < s.capacity :=
  Nat.lt_of_lt_of_le (List.length_pos_of_mem hid) h.length_le

/-- A reset leaves the room. -/
theorem resetSessions (h : s.Roomy known) (c : Call) (request : Request) :
    (c.resetSessions request s).Roomy known := by
  refine ⟨fun id hid => h.ids_subset ?_, by simpa using h.length_le⟩
  rw [mem_ids_iff, Call.find?_resetSessions] at hid
  rw [mem_ids_iff]
  split at hid
  · simp at hid
  · exact hid

/-- With room for all, a call leaves the documents of the other sessions alone. -/
theorem find?_prepare (h : s.Roomy known) {c : Call} (hc : c.sessionId ∈ known) {other : String}
    (hother : other ≠ c.sessionId) : (c.prepare s).1.find? other = s.find? other := by
  obtain hkept | ⟨_, request, _, _, _, hcrowded⟩ :=
    Call.find?_prepare_of_ne (h.capacity_pos hc) hother
  · exact hkept
  · rw [(h.resetSessions c request).crowdedOut hc] at hcrowded
    simp at hcrowded

/-- Calls of known sessions keep the room. -/
theorem prepare (h : s.Roomy known) {c : Call} (hc : c.sessionId ∈ known) :
    (c.prepare s).1.Roomy known := by
  refine ⟨fun id hid => ?_, by rw [Call.capacity_prepare]; exact h.length_le⟩
  by_cases hsession : id = c.sessionId
  · exact hsession ▸ hc
  · rw [mem_ids_iff, h.find?_prepare hc hsession, ← mem_ids_iff] at hid
    exact h.ids_subset hid

end Sessions.Roomy

/-! ## The jobs of one session -/

namespace Job

/-- The replies to the jobs of a session, among those to all jobs. -/
def repliesTo (id : String) (jobs : List Job) (replies : List Reply) : List Reply :=
  ((jobs.zip replies).filter fun pair => pair.1.session = id).map Prod.snd

theorem repliesTo_cons (id : String) (j : Job) (jobs : List Job) (reply : Reply)
    (replies : List Reply) :
    repliesTo id (j :: jobs) (reply :: replies) =
      if j.session = id then reply :: repliesTo id jobs replies else repliesTo id jobs replies := by
  by_cases h : j.session = id <;> simp [repliesTo, h]

/-- Two runs that start with the same document of a session, the second one of its jobs alone, agree on
this session all the way. -/
theorem runAll_agree {known : List String} {id : String} {jobs : List Job} {s alone : Sessions}
    (hroomy : s.Roomy known) (hjobs : ∀ j ∈ jobs, j.session ∈ known)
    (hcapacity : alone.capacity = s.capacity) (hfind : s.find? id = alone.find? id) :
    repliesTo id jobs (runAll s jobs).2 =
        (runAll alone (jobs.filter fun j => j.session = id)).2 ∧
      (runAll s jobs).1.find? id =
        (runAll alone (jobs.filter fun j => j.session = id)).1.find? id := by
  induction jobs generalizing s alone with
  | nil => exact ⟨rfl, hfind⟩
  | cons j jobs ih =>
      rw [List.forall_mem_cons] at hjobs
      obtain ⟨hj, hjobs⟩ := hjobs
      have hnext : ∀ t, (j.run t).sessions = (j.call.prepare t).1 := j.call.sessions_run j.compile
      have hkept : ∀ t, (j.run t).sessions.capacity = t.capacity := by
        intro t
        rw [hnext, Call.capacity_prepare]
      have hroomy' : (j.run s).sessions.Roomy known := hnext s ▸ hroomy.prepare hj
      by_cases hsession : j.session = id
      · -- Both runs answer the job, from the same document.
        have hown : s.find? j.call.sessionId = alone.find? j.call.sessionId := by
          rw [show j.call.sessionId = id from hsession, hfind]
        have hpos := hroomy.capacity_pos hj
        have hreply : (j.run s).reply = (j.run alone).reply :=
          Call.reply_run_congr j.compile hown
        have hfind' : (j.run s).sessions.find? id = (j.run alone).sessions.find? id := by
          rw [hnext, hnext, ← hsession]
          exact Call.find?_prepare_congr hpos (hcapacity ▸ hpos) hown
        have hcapacity' : (j.run alone).sessions.capacity = (j.run s).sessions.capacity := by
          rw [hkept, hkept, hcapacity]
        obtain ⟨hreplies, hlast⟩ := ih hroomy' hjobs hcapacity' hfind'
        rw [List.filter_cons_of_pos (by simpa using hsession), runAll_cons, runAll_cons,
          repliesTo_cons, if_pos hsession, hreply, hreplies]
        exact ⟨rfl, hlast⟩
      · -- The job of another session leaves the document alone.
        have hfind' : (j.run s).sessions.find? id = alone.find? id := by
          rw [hnext, hroomy.find?_prepare hj (Ne.symm hsession), hfind]
        have hcapacity' : alone.capacity = (j.run s).sessions.capacity := by
          rw [hkept, hcapacity]
        obtain ⟨hreplies, hlast⟩ := ih hroomy' hjobs hcapacity' hfind'
        rw [List.filter_cons_of_neg (by simpa using hsession), runAll_cons, repliesTo_cons,
          if_neg hsession]
        exact ⟨hreplies, hlast⟩

/-- With room for every session that is named, the replies to the jobs of a session and the document
that is remembered for it are as if the jobs of the other sessions had not been. -/
theorem runAll_isolated {capacity : Nat} {jobs : List Job}
    (hroom : (distinct (jobs.map Job.session)).length ≤ capacity) (id : String) :
    let all := runAll (Sessions.empty capacity) jobs
    let own := runAll (Sessions.empty capacity) (jobs.filter fun j => j.session = id)
    repliesTo id jobs all.2 = own.2 ∧ all.1.find? id = own.1.find? id :=
  runAll_agree ⟨by simp [Sessions.ids, Sessions.empty, OrderedMap.keys, OrderedMap.empty], hroom⟩
    (fun _ hj => mem_distinct.2 (List.mem_map_of_mem hj)) rfl rfl

/-- Three jobs: one session starts a project, another one starts its own, and the first one goes on. -/
def interleavedJobs : List Job :=
  [⟨{ Call.callOfWidth 640 with session := some "a" }, Call.constantCompiler⟩,
   ⟨{ Call.callOfWidth 320 with session := some "b" }, Call.constantCompiler⟩,
   ⟨⟨.object [("title", .text "Again")], some "a", "update_video"⟩, Call.constantCompiler⟩]

/-- There is room for two sessions, and the second job of the first one reuses the project. -/
theorem runAll_isolated_interleaved :
    (distinct (interleavedJobs.map Job.session)).length ≤ 2 ∧
      let all := runAll (Sessions.empty 2) interleavedJobs
      let own := runAll (Sessions.empty 2) (interleavedJobs.filter fun j => j.session = "a")
      (repliesTo "a" interleavedJobs all.2 = own.2 ∧ all.1.find? "a" = own.1.find? "a") ∧
        own.2.map (fun reply => reply.answer.toBool) = [true, true] ∧
          (all.1.find? "a").map (fun d => d.info.title) = some "Again" ∧ all.1.ids = ["b", "a"] :=
  ⟨by decide, runAll_isolated (by decide) "a", by decide +kernel, by decide +kernel,
    by decide +kernel⟩

end Job
end VideoBundle
