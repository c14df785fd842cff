import Mathlib.Data.List.Nodup
import VideoBundle.Proofs.Project.Effects
import VideoBundle.Project.Service

/-!
# Locks of sessions

Whatever calls come and however they take turns, a lock is held by one call at most, and calls of one
session refer to one lock: the registry keeps the entry of a session as long as a call refers to its
lock.  So two calls of one session are never at work together.

Main results:

- `arrive?_eq_some`, `acquire?_eq_some` and so on: what a move needs and what it does.
- `run_induction`: what every action keeps is kept by every run.
- `Invariant.step`, `Invariant.run`: what holds of locks and positions is kept.
- `Invariant.eq_of_session_eq`: two calls of one session do not hold locks together.
-/

namespace VideoBundle

/-- A lock that a call holds is one that it refers to. -/
theorem Position.lock?_of_held? {p : Position} {lock : Nat} (h : p.held? = some lock) :
    p.lock? = some lock := by
  cases p with
  | waiting other => cases h
  | _ => exact h

/-- A call that holds a lock does not wait. -/
theorem Position.ne_waiting_of_held? {p : Position} {lock : Nat} (h : p.held? = some lock)
    (other : Nat) : p ≠ .waiting other := by
  rintro rfl
  cases h

namespace Service

variable {n : Nat} {jobs : Fin n → Job} {s t : Service n} {i j : Fin n}

/-! ## What a move does -/

/-- A call arrives from outside and gets in line at the lock of its session. -/
theorem arrive?_eq_some {session : String} (h : s.arrive? session i = some t) :
    s.position i = .outside ∧
      t = (s.lockOf session).2.getInLine (s.lockOf session).1 i := by
  unfold arrive? at h
  split at h
  · exact ⟨‹_›, (Option.some.inj h).symm⟩
  · cases h

/-- A lock is taken by the first in line, if nobody holds it. -/
theorem acquire?_eq_some (h : s.acquire? i = some t) :
    ∃ lock line, s.position i = .waiting lock ∧ s.locks lock = ⟨false, i :: line⟩ ∧
      t = (s.setLock lock ⟨true, line⟩).place i (.holding lock) := by
  unfold acquire? at h
  split at h
  · rename_i lock hposition
    split at h
    · rename_i first line hlock
      split at h
      · rename_i hfirst
        exact ⟨lock, line, hposition, hfirst ▸ hlock, (Option.some.inj h).symm⟩
      · cases h
    · cases h
  · cases h

/-- A call is prepared under its lock, on the sessions of that moment. -/
theorem prepare?_eq_some {c : Call} (h : s.prepare? c i = some t) :
    ∃ lock, s.position i = .holding lock ∧
      t = { s with sessions := (c.prepare s.sessions).1 }.place i
        (.working lock (c.prepare s.sessions).2) := by
  unfold prepare? at h
  split at h
  · rename_i lock hposition
    exact ⟨lock, hposition, (Option.some.inj h).symm⟩
  · cases h

/-- A call that compiles goes on to record its reply; the service is not touched otherwise. -/
theorem compile?_eq_some {job : Job} (h : s.compile? job i = some t) :
    ∃ lock request r d, s.position i = .working lock (.compiling request r d) ∧
      t = s.place i (.working lock
        (.recording ((Progress.compiling request r d).finish job s.sessions).reply)) := by
  unfold compile? at h
  split at h
  · rename_i lock request r d hposition
    simp only [Progress.sessions_finish] at h
    exact ⟨lock, request, r, d, hposition, (Option.some.inj h).symm⟩
  · cases h

/-- A call that has recorded its reply leaves and frees its lock. -/
theorem leave?_eq_some (h : s.leave? i = some t) :
    ∃ lock reply, s.position i = .working lock (.recording reply) ∧
      t = (s.setLock lock ⟨false, (s.locks lock).waiting⟩).place i (.answered reply) := by
  unfold leave? at h
  split at h
  · rename_i lock reply hposition
    exact ⟨lock, reply, hposition, (Option.some.inj h).symm⟩
  · cases h

/-- An entry of the registry goes only if no call refers to its lock. -/
theorem forget?_eq_some {session : String} (h : s.forget? session = some t) :
    ∃ lock, s.registry.find? session = some lock ∧ (∀ i, (s.position i).lock? ≠ some lock) ∧
      t = { s with registry := s.registry.erase session } := by
  unfold forget? at h
  split at h
  · rename_i lock hfind
    split at h
    · rename_i hunused
      exact ⟨lock, hfind, hunused, (Option.some.inj h).symm⟩
    · cases h
  · cases h

/-- Looking up or making a lock moves no call. -/
@[simp]
theorem position_lockOf (s : Service n) (session : String) :
    (s.lockOf session).2.position = s.position := by
  unfold lockOf
  split <;> rfl

@[simp]
theorem sessions_lockOf (s : Service n) (session : String) :
    (s.lockOf session).2.sessions = s.sessions := by
  unfold lockOf
  split <;> rfl

/-- The lock of a session is registered. -/
theorem find?_lockOf (s : Service n) (session : String) :
    (s.lockOf session).2.registry.find? session = some (s.lockOf session).1 := by
  unfold lockOf
  split
  · assumption
  · simp

/-- A call that is put at a position under the same lock, or again under none, changes no holder. -/
theorem held?_place {next : Service n} {p : Position} (hposition : next.position = s.position)
    (hp : p.held? = (s.position i).held?) (j : Fin n) :
    ((next.place i p).position j).held? = (s.position j).held? := by
  rw [position_place, hposition]
  split
  · rename_i heq
    rw [heq, hp]
  · rfl

/-! ## Runs -/

/-- What every action keeps is kept by every run; it may speak of the actions of the past. -/
theorem run_induction {motive : List (Action n) → Service n → Prop}
    (hstep : ∀ past u action v, u.step? jobs action = some v → motive past u →
      motive (past ++ [action]) v)
    (past : List (Action n)) {actions : List (Action n)} (hrun : s.run? jobs actions = some t)
    (h : motive past s) : motive (past ++ actions) t := by
  induction actions generalizing past s with
  | nil =>
      cases hrun
      rwa [List.append_nil]
  | cons action actions ih =>
      obtain ⟨next, hnext, hrest⟩ := Option.bind_eq_some_iff.1 hrun
      rw [List.append_cons]
      exact ih _ hrest (hstep past s action next hnext h)

/-- A run can be split at any action. -/
theorem run?_append (s : Service n) (actions others : List (Action n)) :
    s.run? jobs (actions ++ others) = (s.run? jobs actions).bind (run? jobs · others) := by
  induction actions generalizing s with
  | nil => rfl
  | cons action actions ih =>
      simp only [List.cons_append, run?, ih, Option.bind_assoc]

/-! ## The invariant -/

/-- What holds of locks and positions in every state that can be reached. -/
structure Invariant (jobs : Fin n → Job) (s : Service n) : Prop where
  /-- The lock to which a call refers is the one of its session. -/
  registered : ∀ i lock, (s.position i).lock? = some lock →
    s.registry.find? (jobs i).session = some lock
  made : ∀ session lock, s.registry.find? session = some lock → lock < s.lockCount
  waits : ∀ i lock, i ∈ (s.locks lock).waiting ↔ s.position i = .waiting lock
  queue : ∀ lock, (s.locks lock).waiting.Nodup
  held : ∀ lock, (s.locks lock).held = true ↔ ∃ i, (s.position i).held? = some lock
  alone : ∀ i j lock, (s.position i).held? = some lock → (s.position j).held? = some lock → i = j

namespace Invariant

/-- The invariant holds before any call arrives. -/
theorem start (jobs : Fin n → Job) (sessions : Sessions) :
    (Service.start n sessions).Invariant jobs where
  registered i lock h := by cases h
  made session lock h := by cases h
  waits i lock := by simp [Service.start, SessionLock.free]
  queue lock := by simp [Service.start, SessionLock.free]
  held lock := by simp [Service.start, SessionLock.free, Position.held?]
  alone i j lock h := by cases h

/-- Two calls of one session do not hold locks together. -/
theorem eq_of_session_eq (h : s.Invariant jobs) (hsession : (jobs i).session = (jobs j).session)
    (hi : ((s.position i).held?).isSome) (hj : ((s.position j).held?).isSome) : i = j := by
  obtain ⟨lock, hlock⟩ := Option.isSome_iff_exists.1 hi
  obtain ⟨other, hother⟩ := Option.isSome_iff_exists.1 hj
  have hfind := h.registered i lock (Position.lock?_of_held? hlock)
  have hfind' := h.registered j other (Position.lock?_of_held? hother)
  rw [hsession, hfind'] at hfind
  cases hfind
  exact h.alone i j lock hlock hother

/-- The locks that calls refer to have been made. -/
theorem lt_lockCount (h : s.Invariant jobs) {lock : Nat} (hlock : (s.position i).lock? = some lock) :
    lock < s.lockCount :=
  h.made _ lock (h.registered i lock hlock)

/-- A lock that is made is new to all calls. -/
theorem lockOf (h : s.Invariant jobs) (session : String) :
    (s.lockOf session).2.Invariant jobs := by
  unfold Service.lockOf
  split
  · exact h
  · rename_i hnone
    have hnew : ∀ i, (s.position i).lock? ≠ some s.lockCount := fun i hlock =>
      absurd (h.lt_lockCount hlock) (Nat.lt_irrefl _)
    constructor
    case registered =>
      intro i lock hlock
      have hfind := h.registered i lock hlock
      have hne : (jobs i).session ≠ session := by
        rintro rfl
        rw [hnone] at hfind
        cases hfind
      simpa [hne] using hfind
    case made =>
      intro other lock hfind
      simp only [registry_setLock, OrderedMap.find?_insert] at hfind
      split at hfind
      · cases hfind
        exact Nat.lt_succ_self _
      · exact Nat.lt_succ_of_lt (h.made other lock hfind)
    case waits =>
      intro i lock
      rw [locks_setLock]
      split
      · rename_i heq
        have hnot : s.position i ≠ .waiting lock := fun hwaiting =>
          hnew i (by rw [hwaiting, ← heq]; rfl)
        simpa [SessionLock.free] using hnot
      · exact h.waits i lock
    case queue =>
      intro lock
      rw [locks_setLock]
      split
      · exact List.nodup_nil
      · exact h.queue lock
    case held =>
      intro lock
      rw [locks_setLock]
      split
      · rename_i heq
        have hnot : ¬∃ i, (s.position i).held? = some lock := by
          rintro ⟨i, hheld⟩
          exact hnew i (heq ▸ Position.lock?_of_held? hheld)
        simpa [SessionLock.free] using hnot
      · exact h.held lock
    case alone => exact h.alone

/-- A call is put at a position that refers to no lock but the one of its session. -/
theorem registered_place (h : s.Invariant jobs) {next : Service n} {p : Position}
    (hregistry : next.registry = s.registry) (hposition : next.position = s.position)
    (hp : ∀ lock, p.lock? = some lock → s.registry.find? (jobs i).session = some lock)
    (j : Fin n) (lock : Nat) (hlock : ((next.place i p).position j).lock? = some lock) :
    (next.place i p).registry.find? (jobs j).session = some lock := by
  rw [position_place, hposition] at hlock
  rw [registry_place, hregistry]
  split at hlock
  · rename_i heq
    exact heq ▸ hp lock hlock
  · exact h.registered j lock hlock

/-- A call that gets in line at its session's lock keeps the invariant. -/
theorem getInLine (h : s.Invariant jobs) {lock : Nat}
    (hfind : s.registry.find? (jobs i).session = some lock) (houtside : s.position i = .outside) :
    (s.getInLine lock i).Invariant jobs := by
  unfold Service.getInLine
  have hplace : ∀ j, (((s.setLock lock ⟨(s.locks lock).held,
      (s.locks lock).waiting ++ [i]⟩).place i (.waiting lock)).position j).held? =
        (s.position j).held? := held?_place rfl (by rw [houtside]; rfl)
  constructor
  case registered =>
    refine h.registered_place rfl rfl fun other hlock => ?_
    cases hlock
    exact hfind
  case made => exact h.made
  case waits =>
    intro j other
    have hwaits := h.waits j other
    simp only [locks_place, locks_setLock, position_place, position_setLock]
    by_cases hj : j = i
    · subst hj
      rw [houtside] at hwaits
      by_cases hother : other = lock
      · simp [hother]
      · have hother' : ¬lock = other := fun e => hother e.symm
        simpa [hother, hother'] using hwaits
    · by_cases hother : other = lock
      · subst hother
        simpa [hj] using hwaits
      · simpa [hj, hother] using hwaits
  case queue =>
    intro other
    simp only [locks_place, locks_setLock]
    split
    · have hnot : i ∉ (s.locks lock).waiting := by
        rw [h.waits, houtside]
        simp
      rw [← List.concat_eq_append]
      exact (h.queue lock).concat hnot
    · exact h.queue other
  case held =>
    intro other
    have hlock : ((s.setLock lock ⟨(s.locks lock).held, (s.locks lock).waiting ++ [i]⟩).locks
        other).held = (s.locks other).held := by
      rw [locks_setLock]
      split
      · rename_i heq
        rw [heq]
      · rfl
    rw [locks_place, hlock, h.held other]
    exact exists_congr fun j => by rw [hplace]
  case alone =>
    intro j k other
    rw [hplace, hplace]
    exact h.alone j k other

/-- The first in line that takes a free lock keeps the invariant. -/
theorem acquire (h : s.Invariant jobs) {lock : Nat} {line : List (Fin n)}
    (hposition : s.position i = .waiting lock) (hlock : s.locks lock = ⟨false, i :: line⟩) :
    ((s.setLock lock ⟨true, line⟩).place i (.holding lock)).Invariant jobs := by
  have hfree : ∀ j, (s.position j).held? ≠ some lock := by
    intro j hheld
    have hlocked := (h.held lock).2 ⟨j, hheld⟩
    rw [hlock] at hlocked
    cases hlocked
  have hline : i ∉ line ∧ line.Nodup := by
    have hqueue := h.queue lock
    rw [hlock] at hqueue
    exact List.nodup_cons.1 hqueue
  constructor
  case registered =>
    refine h.registered_place rfl rfl fun other hother => ?_
    cases hother
    exact h.registered i lock (by rw [hposition]; rfl)
  case made => exact h.made
  case waits =>
    intro j other
    have hwaits := h.waits j other
    simp only [locks_place, locks_setLock, position_place, position_setLock]
    by_cases hother : other = lock
    · subst hother
      rw [hlock] at hwaits
      by_cases hj : j = i
      · simp [hj, hline.1]
      · simpa [hj] using hwaits
    · by_cases hj : j = i
      · subst hj
        have hother' : ¬lock = other := fun e => hother e.symm
        rw [hposition] at hwaits
        simpa [hother, hother'] using hwaits
      · simpa [hj, hother] using hwaits
  case queue =>
    intro other
    simp only [locks_place, locks_setLock]
    split
    · exact hline.2
    · exact h.queue other
  case held =>
    intro other
    simp only [locks_place, locks_setLock, position_place, position_setLock]
    by_cases hother : other = lock
    · rw [if_pos hother]
      exact iff_of_true rfl ⟨i, by simp [Position.held?, hother]⟩
    · rw [if_neg hother, h.held other]
      refine exists_congr fun j => ?_
      by_cases hj : j = i
      · have hother' : ¬lock = other := fun e => hother e.symm
        simp [hj, hposition, Position.held?, hother']
      · simp [hj]
  case alone =>
    intro j k other hj hk
    rw [position_place] at hj hk
    split at hj
    · rename_i hji
      cases hj
      split at hk
      · rename_i hki
        rw [hji, hki]
      · exact absurd hk (hfree k)
    · split at hk
      · cases hk
        exact absurd hj (hfree j)
      · exact h.alone j k other hj hk

/-- A call that holds a lock moves on under it. -/
theorem work (h : s.Invariant jobs) {lock : Nat} {p : Position} (sessions : Sessions)
    (hheld : (s.position i).held? = some lock) (hp : p.held? = some lock) :
    ({ s with sessions }.place i p).Invariant jobs := by
  have hplace : ∀ j, (({ s with sessions }.place i p).position j).held? =
      (s.position j).held? := held?_place rfl (hp.trans hheld.symm)
  constructor
  case registered =>
    refine h.registered_place rfl rfl fun other hlock => ?_
    rw [Position.lock?_of_held? hp] at hlock
    cases hlock
    exact h.registered i lock (Position.lock?_of_held? hheld)
  case made => exact h.made
  case waits =>
    intro j other
    rw [locks_place, position_place, h.waits j other]
    split
    · rename_i heq
      subst heq
      exact iff_of_false (Position.ne_waiting_of_held? hheld other)
        (Position.ne_waiting_of_held? hp other)
    · rfl
  case queue => exact h.queue
  case held =>
    intro other
    rw [locks_place, h.held other]
    exact exists_congr fun j => by rw [hplace]
  case alone =>
    intro j k other
    rw [hplace, hplace]
    exact h.alone j k other

/-- A call that frees its lock keeps the invariant. -/
theorem leave (h : s.Invariant jobs) {lock : Nat} (reply : Reply)
    (hheld : (s.position i).held? = some lock) :
    ((s.setLock lock ⟨false, (s.locks lock).waiting⟩).place i (.answered reply)).Invariant
      jobs := by
  constructor
  case registered =>
    refine h.registered_place rfl rfl fun other hlock => ?_
    cases hlock
  case made => exact h.made
  case waits =>
    intro j other
    have hline : ((s.setLock lock ⟨false, (s.locks lock).waiting⟩).locks other).waiting =
        (s.locks other).waiting := by
      rw [locks_setLock]
      split
      · rename_i heq
        rw [heq]
      · rfl
    rw [locks_place, hline, position_place, h.waits j other]
    split
    · rename_i heq
      subst heq
      exact iff_of_false (Position.ne_waiting_of_held? hheld other) (by simp)
    · rfl
  case queue =>
    intro other
    simp only [locks_place, locks_setLock]
    split
    · exact h.queue lock
    · exact h.queue other
  case held =>
    intro other
    simp only [locks_place, locks_setLock, position_place, position_setLock]
    by_cases hother : other = lock
    · subst hother
      rw [if_pos rfl]
      refine iff_of_false (by simp) ?_
      rintro ⟨j, hj⟩
      split at hj
      · cases hj
      · rename_i hne
        exact hne (h.alone j i other hj hheld)
    · rw [if_neg hother, h.held other]
      refine exists_congr fun j => ?_
      by_cases hj : j = i
      · rw [if_pos hj, hj, hheld]
        exact iff_of_false (fun heq => hother (Option.some.inj heq).symm) nofun
      · rw [if_neg hj]
  case alone =>
    intro j k other hj hk
    rw [position_place] at hj hk
    split at hj
    · cases hj
    · split at hk
      · cases hk
      · exact h.alone j k other hj hk

/-- The registry loses an entry whose lock no call refers to. -/
theorem forget (h : s.Invariant jobs) {session : String} {lock : Nat}
    (hfind : s.registry.find? session = some lock)
    (hunused : ∀ i, (s.position i).lock? ≠ some lock) :
    ({ s with registry := s.registry.erase session } : Service n).Invariant jobs := by
  constructor
  case registered =>
    intro i other hother
    have hregistered := h.registered i other hother
    have hne : (jobs i).session ≠ session := by
      rintro rfl
      rw [hfind] at hregistered
      cases hregistered
      exact hunused i hother
    simpa [hne] using hregistered
  case made =>
    intro name other hother
    rw [OrderedMap.find?_erase] at hother
    split at hother
    · cases hother
    · exact h.made name other hother
  case waits => exact h.waits
  case queue => exact h.queue
  case held => exact h.held
  case alone => exact h.alone

/-- Every action keeps the invariant. -/
theorem step (h : s.Invariant jobs) {action : Action n} (hstep : s.step? jobs action = some t) :
    t.Invariant jobs := by
  cases action with
  | forget session =>
      obtain ⟨lock, hfind, hunused, rfl⟩ := forget?_eq_some hstep
      exact h.forget hfind hunused
  | call i move =>
      cases move with
      | arrive =>
          obtain ⟨houtside, rfl⟩ := arrive?_eq_some hstep
          exact (h.lockOf _).getInLine (find?_lockOf s _) (by rwa [position_lockOf])
      | acquire =>
          obtain ⟨lock, line, hposition, hlock, rfl⟩ := acquire?_eq_some hstep
          exact h.acquire hposition hlock
      | prepare =>
          obtain ⟨lock, hposition, rfl⟩ := prepare?_eq_some hstep
          exact h.work _ (by rw [hposition]; rfl) rfl
      | compile =>
          obtain ⟨lock, request, r, d, hposition, rfl⟩ := compile?_eq_some hstep
          exact h.work s.sessions (by rw [hposition]; rfl) rfl
      | leave =>
          obtain ⟨lock, reply, hposition, rfl⟩ := leave?_eq_some hstep
          exact h.leave reply (by rw [hposition]; rfl)

/-- Every run keeps the invariant. -/
theorem run (h : s.Invariant jobs) {actions : List (Action n)}
    (hrun : s.run? jobs actions = some t) : t.Invariant jobs :=
  run_induction (motive := fun _ u => u.Invariant jobs)
    (fun _ _ _ _ hstep hu => hu.step hstep) [] hrun h

end Invariant
end Service
end VideoBundle
