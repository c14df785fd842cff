import Mathlib.Algebra.Order.BigOperators.Group.Finset
import Mathlib.Data.Fintype.Basic
import VideoBundle.Proofs.Project.Locks

/-!
# Calls take turns to the end

No call is left waiting.  A call that holds a lock can always move, and a lock that nobody holds can be
given to the call that waits first; every move leaves fewer moves to make.

Main results:

- `movesLeft_run_le`: no call ever goes back.
- `Invariant.exists_step`: until all calls are answered, a call can make a move.
- `Invariant.exists_finish`: all calls can be answered from every state that can be reached.
-/

namespace VideoBundle

namespace Position

/-- How many moves a call at a position still has to make, at most. -/
def movesLeft : Position → Nat
  | outside => 5
  | waiting _ => 4
  | holding _ => 3
  | working _ (.compiling ..) => 2
  | working _ (.recording _) => 1
  | answered _ => 0

/-- A call at work has at most two moves to make. -/
theorem movesLeft_working_lt (lock : Nat) (progress : Progress) :
    (working lock progress).movesLeft < 3 := by
  cases progress <;> simp [movesLeft]

theorem movesLeft_le (p : Position) : p.movesLeft ≤ 5 := by
  cases p with
  | working lock progress =>
      have := movesLeft_working_lt lock progress
      omega
  | _ => simp [movesLeft]

/-- Only an answered call has no move left. -/
theorem movesLeft_eq_zero_iff {p : Position} : p.movesLeft = 0 ↔ ∃ reply, p = .answered reply := by
  cases p with
  | working lock progress => cases progress <;> simp [movesLeft]
  | _ => simp [movesLeft]

/-- Only a call that has not arrived has five moves left. -/
theorem eq_outside_of_movesLeft {p : Position} (h : 5 ≤ p.movesLeft) : p = .outside := by
  cases p with
  | outside => rfl
  | working lock progress =>
      have := movesLeft_working_lt lock progress
      omega
  | _ => simp [movesLeft] at h

end Position

namespace Service

variable {n : Nat} {jobs : Fin n → Job} {s t : Service n} {i : Fin n}

/-- All calls are answered. -/
def Done (s : Service n) : Prop := ∀ i, ∃ reply, s.position i = .answered reply

/-- How many moves are still to make. -/
def movesLeft (s : Service n) : Nat := ∑ i, (s.position i).movesLeft

/-- A call can make a move, which leaves fewer moves to make. -/
def Moves (jobs : Fin n → Job) (s : Service n) : Prop :=
  ∃ action t, s.step? jobs action = some t ∧ t.movesLeft < s.movesLeft

/-- If one call comes nearer to its answer and no other moves, the sum goes down. -/
theorem movesLeft_lt (hi : (t.position i).movesLeft < (s.position i).movesLeft)
    (hothers : ∀ j, j ≠ i → t.position j = s.position j) : t.movesLeft < s.movesLeft := by
  refine Finset.sum_lt_sum (fun j _ => ?_) ⟨i, Finset.mem_univ i, hi⟩
  by_cases hj : j = i
  · exact hj ▸ hi.le
  · rw [hothers j hj]

/-! ## Moves are never taken back -/

/-- Placing a call nearer to its answer puts no call further from its own. -/
theorem movesLeft_place_le {next : Service n} {p : Position} (hnext : next.position = s.position)
    (hp : p.movesLeft ≤ (s.position i).movesLeft) (j : Fin n) :
    ((next.place i p).position j).movesLeft ≤ (s.position j).movesLeft := by
  rw [position_place]
  split
  · rename_i heq
    exact heq ▸ hp
  · rw [hnext]

/-- No action puts a call further from its answer. -/
theorem movesLeft_step_le {action : Action n} (hstep : s.step? jobs action = some t) (j : Fin n) :
    (t.position j).movesLeft ≤ (s.position j).movesLeft := by
  cases action with
  | forget session =>
      obtain ⟨lock, _, _, rfl⟩ := forget?_eq_some hstep
      exact le_rfl
  | call i move =>
      cases move with
      | arrive =>
          obtain ⟨houtside, rfl⟩ := arrive?_eq_some hstep
          exact movesLeft_place_le (by simp) (houtside ▸ Position.movesLeft_le _) j
      | acquire =>
          obtain ⟨lock, line, hposition, _, rfl⟩ := acquire?_eq_some hstep
          exact movesLeft_place_le rfl (by simp [hposition, Position.movesLeft]) j
      | prepare =>
          obtain ⟨lock, hposition, rfl⟩ := prepare?_eq_some hstep
          exact movesLeft_place_le rfl
            (hposition ▸ Nat.le_of_lt (Position.movesLeft_working_lt _ _)) j
      | compile =>
          obtain ⟨lock, request, r, d, hposition, rfl⟩ := compile?_eq_some hstep
          exact movesLeft_place_le rfl (by simp [hposition, Position.movesLeft]) j
      | leave =>
          obtain ⟨lock, reply, hposition, rfl⟩ := leave?_eq_some hstep
          exact movesLeft_place_le rfl (by simp [Position.movesLeft]) j

theorem movesLeft_run_le {actions : List (Action n)} (hrun : s.run? jobs actions = some t)
    (j : Fin n) : (t.position j).movesLeft ≤ (s.position j).movesLeft :=
  run_induction (motive := fun _ u => (u.position j).movesLeft ≤ (s.position j).movesLeft)
    (fun _ _ _ _ hstep hu => (movesLeft_step_le hstep j).trans hu) [] hrun le_rfl

/-! ## A move can always be made -/

/-- A move that puts a call at a later position. -/
theorem moves_of_place {move : Move} {next : Service n} {p : Position}
    (hstep : s.step? jobs (.call i move) = some (next.place i p))
    (hnext : next.position = s.position) (hp : p.movesLeft < (s.position i).movesLeft) :
    s.Moves jobs := by
  have hi : ((next.place i p).position i).movesLeft < (s.position i).movesLeft := by
    rw [position_place, if_pos rfl]
    exact hp
  refine ⟨.call i move, next.place i p, hstep, movesLeft_lt hi fun j hj => ?_⟩
  rw [position_place, if_neg hj, hnext]

/-- A call that has not arrived can arrive. -/
theorem moves_of_outside (h : s.position i = .outside) : s.Moves jobs := by
  have hstep : s.step? jobs (.call i .arrive) =
      some ((s.lockOf (jobs i).session).2.getInLine (s.lockOf (jobs i).session).1 i) := by
    simp only [step?, arrive?, h]
  refine moves_of_place hstep (by simp) ?_
  rw [h]
  exact Nat.lt_succ_self 4

/-- A call that holds a lock can move. -/
theorem moves_of_held {lock : Nat} (h : (s.position i).held? = some lock) : s.Moves jobs := by
  cases hposition : s.position i with
  | outside | waiting _ | answered _ =>
      rw [hposition] at h
      cases h
  | holding own =>
      have hstep : s.step? jobs (.call i .prepare) =
          some ({ s with sessions := ((jobs i).call.prepare s.sessions).1 }.place i
            (.working own ((jobs i).call.prepare s.sessions).2)) := by
        simp only [step?, prepare?, hposition]
      refine moves_of_place hstep rfl ?_
      rw [hposition]
      exact Position.movesLeft_working_lt _ _
  | working own progress =>
      cases progress with
      | compiling request r d =>
          have hstep : s.step? jobs (.call i .compile) =
              some ({ s with sessions :=
                  ((Progress.compiling request r d).finish (jobs i) s.sessions).sessions }.place i
                (.working own (.recording
                  ((Progress.compiling request r d).finish (jobs i) s.sessions).reply))) := by
            simp only [step?, compile?, hposition]
          refine moves_of_place hstep rfl ?_
          rw [hposition]
          exact Nat.lt_succ_self 1
      | recording reply =>
          have hstep : s.step? jobs (.call i .leave) =
              some ((s.setLock own ⟨false, (s.locks own).waiting⟩).place i (.answered reply)) := by
            simp only [step?, leave?, hposition]
          refine moves_of_place hstep rfl ?_
          rw [hposition]
          exact Nat.lt_succ_self 0

/-- When a call waits for a lock, the one that holds it can move, or the one that waits first. -/
theorem Invariant.moves_of_waiting (h : s.Invariant jobs) {lock : Nat}
    (hposition : s.position i = .waiting lock) : s.Moves jobs := by
  cases hlock : s.locks lock with
  | mk held line =>
      cases held with
      | true =>
          obtain ⟨j, hj⟩ := (h.held lock).1 (by rw [hlock])
          exact moves_of_held hj
      | false =>
          have hmem : i ∈ line := by
            have hwaits := (h.waits i lock).2 hposition
            rwa [hlock] at hwaits
          cases line with
          | nil => cases hmem
          | cons first line =>
              have hfirst : s.position first = .waiting lock := by
                rw [← h.waits, hlock]
                exact List.mem_cons_self
              have hstep : s.step? jobs (.call first .acquire) =
                  some ((s.setLock lock ⟨true, line⟩).place first (.holding lock)) := by
                simp only [step?, acquire?, hfirst, hlock, if_true]
              refine moves_of_place hstep rfl ?_
              rw [hfirst]
              exact Nat.lt_succ_self 3

/-- Until all calls are answered, a call can make a move. -/
theorem Invariant.exists_step (h : s.Invariant jobs) (hopen : ¬s.Done) : s.Moves jobs := by
  obtain ⟨i, hi⟩ := not_forall.1 hopen
  cases hposition : s.position i with
  | outside => exact moves_of_outside hposition
  | waiting lock => exact h.moves_of_waiting hposition
  | holding lock | working lock progress => exact moves_of_held (by rw [hposition]; rfl)
  | answered reply => exact absurd ⟨reply, hposition⟩ hi

/-- From every state that can be reached all calls can be answered. -/
theorem Invariant.exists_finish (h : s.Invariant jobs) :
    ∃ actions t, s.run? jobs actions = some t ∧ t.Done := by
  induction hleft : s.movesLeft using Nat.strong_induction_on generalizing s with
  | h left ih =>
      by_cases hdone : s.Done
      · exact ⟨[], s, rfl, hdone⟩
      · obtain ⟨action, next, hnext, hless⟩ := h.exists_step hdone
        obtain ⟨actions, t, hrun, ht⟩ := ih _ (hleft ▸ hless) (h.step hnext) rfl
        exact ⟨action :: actions, t, by rw [run?, hnext, Option.bind_some, hrun], ht⟩

end Service
end VideoBundle
