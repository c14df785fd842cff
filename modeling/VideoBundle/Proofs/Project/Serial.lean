import Mathlib.Data.List.Nodup
import VideoBundle.Proofs.Project.Locks

/-!
# The order in which calls look at the sessions

A call takes effect in one move, the one in which it looks at the sessions and remembers.  What a
service has done so far is what the plain service does with the calls that have made this move, one
after another and in the order in which they made it.  The calls of one session make it in the order in
which they were given the lock.

Main results:

- `Serial.run`: sessions and replies are those of the plain service.
- `InTurn.run`: the calls of one session take effect in the order in which they were given the lock.
-/

namespace VideoBundle

/-! ## Replies that are decided -/

/-- The reply to which a call will come. -/
def Progress.reply (j : Job) (p : Progress) : Reply := (p.finish j (Sessions.empty 0)).reply

/-- The reply of a call does not depend on the store at its end. -/
theorem Progress.reply_finish_eq (j : Job) (sessions : Sessions) (p : Progress) :
    (p.finish j sessions).reply = p.reply j :=
  reply_finish j sessions _ p

/-- The reply of a call at a position, when it is decided. -/
def Position.reply? (j : Job) : Position → Option Reply
  | working _ progress => some (progress.reply j)
  | answered reply => some reply
  | _ => none

namespace Job

theorem runAll_concat (sessions : Sessions) (jobs : List Job) (j : Job) :
    runAll sessions (jobs ++ [j]) =
      ((j.run (runAll sessions jobs).1).sessions,
        (runAll sessions jobs).2 ++ [(j.run (runAll sessions jobs).1).reply]) := by
  induction jobs generalizing sessions with
  | nil => rfl
  | cons first jobs ih =>
      rw [List.cons_append, runAll_cons, ih, runAll_cons, List.cons_append]

/-- The reply of a job is settled when it is prepared. -/
theorem reply_run (j : Job) (sessions : Sessions) :
    (j.run sessions).reply = (j.call.prepare sessions).2.reply j := by
  rw [run, Call.run_eq_finish]
  exact Progress.reply_finish_eq j _ _

end Job

namespace Service

variable {n : Nat} {jobs : Fin n → Job} {sessions : Sessions} {past : List (Action n)}
  {s t : Service n} {i : Fin n}

/-! ## Moves of the past -/

/-- The calls that have made a move, in the order in which they made it. -/
def movers (move : Move) (past : List (Action n)) : List (Fin n) :=
  past.filterMap fun
    | .call i made => if made = move then some i else none
    | .forget _ => none

@[simp]
theorem movers_append (move : Move) (past next : List (Action n)) :
    movers move (past ++ next) = movers move past ++ movers move next :=
  List.filterMap_append

@[simp]
theorem movers_call (move made : Move) (i : Fin n) :
    movers move [.call i made] = if made = move then [i] else [] := by
  unfold movers
  split <;> simp [*]

@[simp]
theorem movers_forget (move : Move) (session : String) :
    movers move [(.forget session : Action n)] = [] := rfl

/-- The calls of a session. -/
def ofSession (jobs : Fin n → Job) (session : String) (calls : List (Fin n)) : List (Fin n) :=
  calls.filter fun i => (jobs i).session = session

@[simp]
theorem ofSession_append (session : String) (calls others : List (Fin n)) :
    ofSession jobs session (calls ++ others) =
      ofSession jobs session calls ++ ofSession jobs session others :=
  List.filter_append ..

theorem ofSession_self (i : Fin n) : ofSession jobs (jobs i).session [i] = [i] := by
  simp [ofSession]

theorem ofSession_of_ne {session : String} (h : (jobs i).session ≠ session) :
    ofSession jobs session [i] = [] := by
  simp [ofSession, h]

/-! ## The plain service -/

/-- A service has done what the plain service does with the calls that have taken effect. -/
structure Serial (jobs : Fin n → Job) (sessions : Sessions) (past : List (Action n))
    (s : Service n) : Prop where
  sessions_eq : s.sessions = (Job.runAll sessions ((movers .prepare past).map jobs)).1
  replies_eq : (movers .prepare past).map (fun i => (s.position i).reply? (jobs i)) =
    (Job.runAll sessions ((movers .prepare past).map jobs)).2.map some
  decided : ∀ i, i ∈ movers .prepare past ↔ ((s.position i).reply? (jobs i)).isSome
  nodup : (movers .prepare past).Nodup

namespace Serial

/-- Before any action nothing was prepared and the sessions are the given ones. -/
theorem start (jobs : Fin n → Job) (sessions : Sessions) :
    Serial jobs sessions [] (Service.start n sessions) where
  sessions_eq := rfl
  replies_eq := rfl
  decided i := by simp [movers, Service.start, Position.reply?]
  nodup := List.nodup_nil

/-- Actions by which no call takes effect. -/
theorem frame (h : Serial jobs sessions past s) {action : Action n}
    (haction : movers .prepare [action] = []) (hsessions : t.sessions = s.sessions)
    (hreply : ∀ i, (t.position i).reply? (jobs i) = (s.position i).reply? (jobs i)) :
    Serial jobs sessions (past ++ [action]) t := by
  have hpast : movers .prepare (past ++ [action]) = movers .prepare past := by
    rw [movers_append, haction, List.append_nil]
  constructor
  case sessions_eq => rw [hpast, hsessions, h.sessions_eq]
  case replies_eq =>
    rw [hpast, ← h.replies_eq]
    exact List.map_congr_left fun i _ => hreply i
  case decided =>
    intro i
    rw [hpast, hreply, h.decided]
  case nodup => exact hpast ▸ h.nodup

/-- An action that prepares nothing keeps the serial order, if the call's reply is still the same.
-/
theorem frame_place (h : Serial jobs sessions past s) {action : Action n} {next : Service n}
    {p : Position} (haction : movers .prepare [action] = [])
    (hsessions : next.sessions = s.sessions) (hposition : next.position = s.position)
    (hp : p.reply? (jobs i) = (s.position i).reply? (jobs i)) :
    Serial jobs sessions (past ++ [action]) (next.place i p) := by
  refine h.frame haction hsessions fun j => ?_
  rw [position_place]
  split
  · rename_i heq
    rw [heq, hp]
  · rw [hposition]

/-- A call takes effect: the plain service answers one call more. -/
theorem prepare (h : Serial jobs sessions past s) {lock : Nat}
    (hposition : s.position i = .holding lock) :
    Serial jobs sessions (past ++ [.call i .prepare])
      ({ s with sessions := ((jobs i).call.prepare s.sessions).1 }.place i
        (.working lock ((jobs i).call.prepare s.sessions).2)) := by
  have hnew : i ∉ movers .prepare past := by
    rw [h.decided, hposition]
    simp [Position.reply?]
  have hpast : movers .prepare (past ++ [.call i .prepare]) = movers .prepare past ++ [i] := by
    rw [movers_append, movers_call, if_pos rfl]
  have hrun : Job.runAll sessions ((movers .prepare (past ++ [.call i .prepare])).map jobs) =
      (((jobs i).call.prepare s.sessions).1,
        (Job.runAll sessions ((movers .prepare past).map jobs)).2 ++
          [((jobs i).call.prepare s.sessions).2.reply (jobs i)]) := by
    rw [hpast, List.map_append, List.map_singleton, Job.runAll_concat, ← h.sessions_eq,
      Job.reply_run, Job.run, Call.sessions_run]
  constructor
  case sessions_eq =>
    rw [hrun]
    rfl
  case replies_eq =>
    have hothers : (movers .prepare past).map (fun j =>
        ((if j = i then Position.working lock ((jobs i).call.prepare s.sessions).2
          else s.position j).reply? (jobs j))) =
        (movers .prepare past).map fun j => (s.position j).reply? (jobs j) := by
      refine List.map_congr_left fun j hj => ?_
      have hne : j ≠ i := fun heq => hnew (heq ▸ hj)
      rw [if_neg hne]
    rw [hrun, hpast, List.map_append, List.map_append, ← h.replies_eq]
    simp only [position_place, hothers, List.map_singleton, if_true]
    rfl
  case decided =>
    intro j
    rw [hpast, List.mem_append, List.mem_singleton, h.decided, position_place]
    by_cases hj : j = i
    · subst hj
      simp [Position.reply?]
    · simp [hj]
  case nodup =>
    rw [hpast, ← List.concat_eq_append]
    exact h.nodup.concat hnew

/-- Every action keeps to the plain service. -/
theorem step (h : Serial jobs sessions past s) {action : Action n}
    (hstep : s.step? jobs action = some t) : Serial jobs sessions (past ++ [action]) t := by
  cases action with
  | forget session =>
      obtain ⟨lock, _, _, rfl⟩ := forget?_eq_some hstep
      exact h.frame (movers_forget _ _) rfl fun _ => rfl
  | call i move =>
      cases move with
      | arrive =>
          obtain ⟨houtside, rfl⟩ := arrive?_eq_some hstep
          exact h.frame_place (by simp) (by simp) (by simp) (by rw [houtside]; rfl)
      | acquire =>
          obtain ⟨lock, line, hposition, _, rfl⟩ := acquire?_eq_some hstep
          exact h.frame_place (by simp) rfl rfl (by rw [hposition]; rfl)
      | prepare =>
          obtain ⟨lock, hposition, rfl⟩ := prepare?_eq_some hstep
          exact h.prepare hposition
      | compile =>
          obtain ⟨lock, request, r, d, hposition, rfl⟩ := compile?_eq_some hstep
          refine h.frame_place (by simp) rfl rfl ?_
          rw [hposition, Progress.reply_finish_eq]
          rfl
      | leave =>
          obtain ⟨lock, reply, hposition, rfl⟩ := leave?_eq_some hstep
          refine h.frame_place (by simp) rfl rfl ?_
          rw [hposition]
          rfl

/-- Every run keeps to the plain service. -/
theorem run (h : Serial jobs sessions past s) {actions : List (Action n)}
    (hrun : s.run? jobs actions = some t) : Serial jobs sessions (past ++ actions) t :=
  run_induction (fun _ _ _ _ hstep hu => hu.step hstep) past hrun h

end Serial

/-! ## The turns of a session -/

/-- The calls of a session take effect in the order in which they were given the lock; the one that has
the lock and has not taken effect comes last. -/
structure InTurn (jobs : Fin n → Job) (past : List (Action n)) (s : Service n) : Prop where
  settled : ∀ session, (∀ i lock, s.position i = .holding lock → (jobs i).session ≠ session) →
    ofSession jobs session (movers .acquire past) = ofSession jobs session (movers .prepare past)
  next : ∀ i lock, s.position i = .holding lock →
    ofSession jobs (jobs i).session (movers .acquire past) =
      ofSession jobs (jobs i).session (movers .prepare past) ++ [i]

namespace InTurn

/-- Before any action no call has taken its turn. -/
theorem start (jobs : Fin n → Job) (sessions : Sessions) :
    InTurn jobs [] (Service.start n sessions) where
  settled session _ := rfl
  next i lock h := by cases h

/-- Actions by which no call is given a lock and none takes effect. -/
theorem frame (h : InTurn jobs past s) {action : Action n}
    (hacquire : movers .acquire [action] = []) (hprepare : movers .prepare [action] = [])
    (hholding : ∀ i lock, t.position i = .holding lock ↔ s.position i = .holding lock) :
    InTurn jobs (past ++ [action]) t := by
  have hacquired : movers .acquire (past ++ [action]) = movers .acquire past := by
    rw [movers_append, hacquire, List.append_nil]
  have hprepared : movers .prepare (past ++ [action]) = movers .prepare past := by
    rw [movers_append, hprepare, List.append_nil]
  constructor
  case settled =>
    intro session hnone
    rw [hacquired, hprepared]
    exact h.settled session fun i lock hi => hnone i lock ((hholding i lock).2 hi)
  case next =>
    intro i lock hi
    rw [hacquired, hprepared]
    exact h.next i lock ((hholding i lock).1 hi)

/-- An action that neither takes a lock nor prepares keeps the turns. -/
theorem frame_place (h : InTurn jobs past s) {action : Action n} {next : Service n}
    {p : Position} (hacquire : movers .acquire [action] = [])
    (hprepare : movers .prepare [action] = []) (hposition : next.position = s.position)
    (hbefore : ∀ lock, s.position i ≠ .holding lock) (hp : ∀ lock, p ≠ .holding lock) :
    InTurn jobs (past ++ [action]) (next.place i p) := by
  refine h.frame hacquire hprepare fun j lock => ?_
  rw [position_place]
  split
  · rename_i heq
    rw [heq]
    exact iff_of_false (hp lock) (hbefore lock)
  · rw [hposition]

/-- A call is given the lock: until then no call of its session has it. -/
theorem acquire (h : InTurn jobs past s) (hs : s.Invariant jobs) {lock : Nat}
    {line : List (Fin n)} (hposition : s.position i = .waiting lock)
    (hlock : s.locks lock = ⟨false, i :: line⟩) :
    InTurn jobs (past ++ [.call i .acquire])
      ((s.setLock lock ⟨true, line⟩).place i (.holding lock)) := by
  have hne : ∀ j other, s.position j = .holding other → j ≠ i := by
    rintro j other hj rfl
    rw [hposition] at hj
    cases hj
  have hothers : ∀ j other, s.position j = .holding other → (jobs j).session ≠ (jobs i).session := by
    intro j other hj hsession
    have ht := hs.acquire hposition hlock
    refine hne j other hj (ht.eq_of_session_eq hsession ?_ ?_)
    · simp [hne j other hj, hj, Position.held?]
    · simp [Position.held?]
  have hacquired : movers .acquire (past ++ [.call i .acquire]) = movers .acquire past ++ [i] := by
    rw [movers_append, movers_call, if_pos rfl]
  have hprepared : movers .prepare (past ++ [.call i .acquire]) = movers .prepare past := by
    rw [movers_append, movers_call, if_neg (by decide), List.append_nil]
  constructor
  case settled =>
    intro session hnone
    have hsession : (jobs i).session ≠ session := hnone i lock (by simp)
    rw [hacquired, hprepared, ofSession_append, ofSession_of_ne hsession, List.append_nil]
    exact h.settled session fun j other hj => hnone j other (by simp [hne j other hj, hj])
  case next =>
    intro j other hj
    rw [position_place] at hj
    rw [hacquired, hprepared, ofSession_append]
    split at hj
    · rename_i heq
      subst heq
      rw [ofSession_self, h.settled _ hothers]
    · rw [ofSession_of_ne (Ne.symm (hothers j other hj)), List.append_nil]
      exact h.next j other hj

/-- A call takes effect: it was the last of its session to be given the lock. -/
theorem prepare (h : InTurn jobs past s) (hs : s.Invariant jobs) {lock : Nat} {next : Service n}
    {progress : Progress} (hposition : s.position i = .holding lock)
    (hnext : next.position = s.position) :
    InTurn jobs (past ++ [.call i .prepare]) (next.place i (.working lock progress)) := by
  have hothers : ∀ j other, j ≠ i → s.position j = .holding other →
      (jobs j).session ≠ (jobs i).session := by
    intro j other hne hj hsession
    refine hne (hs.eq_of_session_eq hsession ?_ ?_)
    · rw [hj]
      rfl
    · rw [hposition]
      rfl
  have hacquired : movers .acquire (past ++ [.call i .prepare]) = movers .acquire past := by
    rw [movers_append, movers_call, if_neg (by decide), List.append_nil]
  have hprepared : movers .prepare (past ++ [.call i .prepare]) = movers .prepare past ++ [i] := by
    rw [movers_append, movers_call, if_pos rfl]
  constructor
  case settled =>
    intro session hnone
    rw [hacquired, hprepared, ofSession_append]
    by_cases hsession : (jobs i).session = session
    · subst hsession
      rw [ofSession_self, h.next i lock hposition]
    · rw [ofSession_of_ne hsession, List.append_nil]
      refine h.settled session fun j other hj => ?_
      by_cases hne : j = i
      · exact hne ▸ hsession
      · exact hnone j other (by simp [hne, hnext, hj])
  case next =>
    intro j other hj
    rw [position_place] at hj
    split at hj
    · cases hj
    · rename_i hne
      rw [hnext] at hj
      rw [hacquired, hprepared, ofSession_append, ofSession_of_ne (Ne.symm (hothers j other hne hj)),
        List.append_nil]
      exact h.next j other hj

/-- Every action keeps the turns. -/
theorem step (h : InTurn jobs past s) (hs : s.Invariant jobs) {action : Action n}
    (hstep : s.step? jobs action = some t) : InTurn jobs (past ++ [action]) t := by
  cases action with
  | forget session =>
      obtain ⟨lock, _, _, rfl⟩ := forget?_eq_some hstep
      exact h.frame (movers_forget _ _) (movers_forget _ _) fun _ _ => Iff.rfl
  | call i move =>
      cases move with
      | arrive =>
          obtain ⟨houtside, rfl⟩ := arrive?_eq_some hstep
          exact h.frame_place (by simp) (by simp) (by simp) (by simp [houtside]) (by simp)
      | acquire =>
          obtain ⟨lock, line, hposition, hlock, rfl⟩ := acquire?_eq_some hstep
          exact h.acquire hs hposition hlock
      | prepare =>
          obtain ⟨lock, hposition, rfl⟩ := prepare?_eq_some hstep
          exact h.prepare hs hposition rfl
      | compile =>
          obtain ⟨lock, request, r, d, hposition, rfl⟩ := compile?_eq_some hstep
          exact h.frame_place (by simp) (by simp) rfl (by simp [hposition]) (by simp)
      | leave =>
          obtain ⟨lock, reply, hposition, rfl⟩ := leave?_eq_some hstep
          exact h.frame_place (by simp) (by simp) rfl (by simp [hposition]) (by simp)

/-- Every run keeps the turns. -/
theorem run (h : InTurn jobs past s) (hs : s.Invariant jobs) {actions : List (Action n)}
    (hrun : s.run? jobs actions = some t) : InTurn jobs (past ++ actions) t := by
  have hboth : InTurn jobs (past ++ actions) t ∧ t.Invariant jobs :=
    run_induction (motive := fun past u => InTurn jobs past u ∧ u.Invariant jobs)
      (fun _ _ _ _ hstep hu => ⟨hu.1.step hu.2 hstep, hu.2.step hstep⟩) past hrun
      ⟨h, hs⟩
  exact hboth.1

end InTurn
end Service
end VideoBundle
