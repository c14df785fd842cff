import VideoBundle.Proofs.Project.Serial
import VideoBundle.Proofs.Project.Turns

/-!
# Overlapping calls are linearizable

When all calls are answered, the sessions and the replies are those of the plain service, which answers
the calls one after another: in an order that keeps the turns of every session, and in which a call that
came when another one was answered stands behind it.

Main results:

- `decided_of_left`, `outside_of_arrives`: what a move says about the states before and after it.
- `run_linearizable`: calls of one session never overlap under their lock, all calls can be answered,
  and then they are linearized.
-/

namespace VideoBundle
namespace Service

variable {n : Nat} {jobs : Fin n → Job} {sessions : Sessions} {trace : List (Action n)}
  {s t : Service n} {i j : Fin n}

/-! ## Moves and time -/

/-- A call is among those that made a move exactly if its action is in the trace. -/
theorem mem_movers_iff {move : Move} : i ∈ movers move trace ↔ .call i move ∈ trace := by
  simp only [movers, List.mem_filterMap]
  constructor
  · rintro ⟨action, haction, hmove⟩
    split at hmove
    · split at hmove
      · rename_i hmade
        cases hmove
        exact hmade ▸ haction
      · cases hmove
    · cases hmove
  · intro hmem
    exact ⟨.call i move, hmem, by simp⟩

/-- A run in which a call makes a move goes through that move. -/
theorem exists_step_of_mem {move : Move} (hrun : s.run? jobs trace = some t)
    (hmem : i ∈ movers move trace) :
    ∃ before after u v, s.run? jobs before = some u ∧ u.step? jobs (.call i move) = some v ∧
      v.run? jobs after = some t := by
  obtain ⟨before, after, rfl⟩ := List.append_of_mem (mem_movers_iff.1 hmem)
  rw [run?_append] at hrun
  obtain ⟨u, hbefore, hrest⟩ := Option.bind_eq_some_iff.1 hrun
  obtain ⟨v, hstep, hafter⟩ := Option.bind_eq_some_iff.1 hrest
  exact ⟨before, after, u, v, hbefore, hstep, hafter⟩

/-- The reply of a call that has left is decided. -/
theorem decided_of_left (hrun : s.run? jobs trace = some t) (hmem : i ∈ movers .leave trace) :
    ((t.position i).reply? (jobs i)).isSome := by
  obtain ⟨_, _, u, v, _, hstep, hafter⟩ := exists_step_of_mem hrun hmem
  obtain ⟨lock, reply, _, rfl⟩ := leave?_eq_some hstep
  have hleft : (t.position i).movesLeft ≤ 0 := by
    have hle := movesLeft_run_le hafter i
    rwa [position_place, if_pos rfl] at hle
  obtain ⟨reply, hreply⟩ := Position.movesLeft_eq_zero_iff.1 (Nat.le_zero.1 hleft)
  rw [hreply]
  rfl

/-- A call that comes later has not come yet. -/
theorem outside_of_arrives (hrun : s.run? jobs trace = some t) (hmem : i ∈ movers .arrive trace) :
    s.position i = .outside := by
  obtain ⟨_, _, u, v, hbefore, hstep, _⟩ := exists_step_of_mem hrun hmem
  obtain ⟨houtside, _⟩ := arrive?_eq_some hstep
  have hle := movesLeft_run_le hbefore i
  rw [houtside] at hle
  exact Position.eq_outside_of_movesLeft hle

/-- When all calls are answered, a call that came when another one was answered has taken effect after
it. -/
theorem sublist_prepared (hrun : (start n sessions).run? jobs trace = some t)
    (hprepared : ∀ i, i ∈ movers .prepare trace) {past rest : List (Action n)}
    (htrace : trace = past ++ rest) (hi : i ∈ movers .leave past) (hj : j ∈ movers .arrive rest) :
    [i, j].Sublist (movers .prepare trace) := by
  subst htrace
  rw [run?_append] at hrun
  obtain ⟨u, hpast, hrest⟩ := Option.bind_eq_some_iff.1 hrun
  have hserial : Serial jobs sessions past u := (Serial.start jobs sessions).run hpast
  have hbefore : i ∈ movers .prepare past := (hserial.decided i).2 (decided_of_left hpast hi)
  have hafter : j ∈ movers .prepare rest := by
    have hnot : j ∉ movers .prepare past := by
      rw [hserial.decided, outside_of_arrives hrest hj]
      simp [Position.reply?]
    have hmem := hprepared j
    rw [movers_append, List.mem_append] at hmem
    exact hmem.resolve_left hnot
  rw [movers_append]
  exact List.Sublist.append (List.singleton_sublist.2 hbefore) (List.singleton_sublist.2 hafter)

/-! ## The result -/

/-- An order in which the plain service answers the calls of a run with the same results. -/
structure Linearization (jobs : Fin n → Job) (sessions : Sessions) (trace : List (Action n))
    (t : Service n) (order : List (Fin n)) : Prop where
  nodup : order.Nodup
  complete : ∀ i, i ∈ order
  /-- Within a session the calls stand in the order in which they were given the lock. -/
  in_session : ∀ session,
    ofSession jobs session order = ofSession jobs session (movers .acquire trace)
  /-- A call that came when another one was answered stands behind it. -/
  in_time : ∀ past rest, trace = past ++ rest → ∀ i ∈ movers .leave past, ∀ j ∈ movers .arrive rest,
    [i, j].Sublist order
  sessions_eq : t.sessions = (Job.runAll sessions (order.map jobs)).1
  replies_eq : order.map t.position = (Job.runAll sessions (order.map jobs)).2.map .answered

/-- When all calls are answered, they are linearized in the order in which they took effect. -/
theorem linearization_of_done (hrun : (start n sessions).run? jobs trace = some t) (hdone : t.Done) :
    Linearization jobs sessions trace t (movers .prepare trace) := by
  have hserial : Serial jobs sessions trace t := (Serial.start jobs sessions).run hrun
  have hturns : InTurn jobs trace t :=
    (InTurn.start jobs sessions).run (Invariant.start jobs sessions) hrun
  have hprepared : ∀ i, i ∈ movers .prepare trace := by
    intro i
    obtain ⟨reply, hreply⟩ := hdone i
    rw [hserial.decided, hreply]
    rfl
  constructor
  case nodup => exact hserial.nodup
  case complete => exact hprepared
  case in_session =>
    intro session
    refine (hturns.settled session fun i lock hi => ?_).symm
    obtain ⟨reply, hreply⟩ := hdone i
    rw [hreply] at hi
    cases hi
  case in_time =>
    intro past rest htrace i hi j hj
    exact sublist_prepared hrun hprepared htrace hi hj
  case sessions_eq => exact hserial.sessions_eq
  case replies_eq =>
    choose reply hreply using hdone
    have hreplies : (movers .prepare trace).map reply =
        (Job.runAll sessions ((movers .prepare trace).map jobs)).2 := by
      have hsome := hserial.replies_eq
      simp only [hreply, Position.reply?] at hsome
      rw [← Function.comp_def some reply, ← List.map_map] at hsome
      exact List.map_injective_iff.2 (Option.some_injective _) hsome
    calc (movers .prepare trace).map t.position
        = ((movers .prepare trace).map reply).map .answered := by
          rw [List.map_map]
          exact List.map_congr_left fun i _ => hreply i
      _ = (Job.runAll sessions ((movers .prepare trace).map jobs)).2.map .answered := by
          rw [hreplies]

/-- However calls overlap, two calls of one session are never under their lock together, and from every
state all calls can be answered.  Then the sessions and the replies are those of the plain service, in
an order that keeps the turns of every session. -/
theorem run_linearizable (hrun : (start n sessions).run? jobs trace = some t) :
    (∀ i j, (jobs i).session = (jobs j).session → ((t.position i).held?).isSome →
        ((t.position j).held?).isSome → i = j) ∧
      (∃ more u, t.run? jobs more = some u ∧ u.Done) ∧
        (t.Done → ∃ order, Linearization jobs sessions trace t order) := by
  have hinvariant : t.Invariant jobs := (Invariant.start jobs sessions).run hrun
  refine ⟨?_, hinvariant.exists_finish, fun hdone => ⟨_, linearization_of_done hrun hdone⟩⟩
  intro i j hsession hi hj
  exact hinvariant.eq_of_session_eq hsession hi hj

/-- Two calls of one session, and one of another session that comes between them. -/
def crowdedJobs : Fin 3 → Job
  | 0 => ⟨{ Call.callOfWidth 640 with session := some "a" }, Call.constantCompiler⟩
  | 1 => ⟨{ Call.callOfWidth 320 with session := some "b" }, Call.constantCompiler⟩
  | 2 => ⟨⟨.object [("title", .text "Again")], some "a", "update_video"⟩, Call.constantCompiler⟩

/-- While the first call is compiled, the second one crowds its session out, and the third one waits.
When the second one is answered, the registry loses its lock. -/
def crowdedTrace : List (Action 3) :=
  [.call 0 .arrive, .call 0 .acquire, .call 0 .prepare, .call 2 .arrive, .call 1 .arrive,
   .call 1 .acquire, .call 1 .prepare, .call 0 .compile, .call 0 .leave, .call 2 .acquire,
   .call 1 .compile, .call 1 .leave, .forget "b", .call 2 .prepare, .call 2 .leave]

/-- With room for one session the third call finds no project, as it would if the calls came one after
another. -/
theorem run_linearizable_crowded :
    ∃ t, (start 3 (Sessions.empty 1)).run? crowdedJobs crowdedTrace = some t ∧ t.Done ∧
      (∃ order, Linearization crowdedJobs (Sessions.empty 1) crowdedTrace t order) ∧
        t.sessions.ids = ["b"] := by
  have hruns : (match (start 3 (Sessions.empty 1)).run? crowdedJobs crowdedTrace with
      | some t => decide ((∀ i, (t.position i).movesLeft = 0) ∧ t.sessions.ids = ["b"])
      | none => false) = true := by
    decide +kernel
  split at hruns
  · rename_i t hrun
    obtain ⟨hleft, hids⟩ := of_decide_eq_true hruns
    have hdone : t.Done := fun i => Position.movesLeft_eq_zero_iff.1 (hleft i)
    exact ⟨t, hrun, hdone, (run_linearizable hrun).2.2 hdone, hids⟩
  · cases hruns

end Service
end VideoBundle
