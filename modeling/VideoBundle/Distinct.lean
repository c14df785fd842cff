/-!
# Lists without repeats

`distinct` keeps the first occurrence of every item, in order.

Main results:

- `mem_distinct`: no item is lost and none is added.
- `nodup_distinct`: no item occurs twice.
- `distinct_concat`: what an item at the end adds.
- `distinct_eq_self`: a list without repeats stays as it is.
- `distinct_append_eq_iff`: which items at the end add nothing.
- `distinct_eq_eraseDups`: keeping first occurrences is erasing later ones.
-/

namespace VideoBundle

/-- The items of a list at their first occurrences. -/
def distinct {α : Type} [DecidableEq α] : List α → List α
  | [] => []
  | a :: l => a :: (distinct l).filter (· ≠ a)

/-- Dropping repetitions loses no member and adds none. -/
theorem mem_distinct {α : Type} [DecidableEq α] {a : α} {l : List α} : a ∈ distinct l ↔ a ∈ l := by
  induction l with
  | nil => simp [distinct]
  | cons b l ih =>
      by_cases h : a = b
      · simp [distinct, h]
      · simp [distinct, h, ih]

/-- Nothing stands twice in what is left. -/
theorem nodup_distinct {α : Type} [DecidableEq α] (l : List α) : (distinct l).Nodup := by
  induction l with
  | nil => simp [distinct]
  | cons b l ih =>
      simp only [distinct, List.nodup_cons, List.mem_filter]
      exact ⟨by simp, ih.filter _⟩

/-- An item at the end is kept when it has not occurred before. -/
theorem distinct_concat {α : Type} [DecidableEq α] (l : List α) (a : α) :
    distinct (l ++ [a]) = if a ∈ l then distinct l else distinct l ++ [a] := by
  induction l with
  | nil => simp [distinct]
  | cons b l ih =>
      rw [List.cons_append, distinct, ih]
      by_cases hb : a = b
      · subst hb
        rw [if_pos List.mem_cons_self, distinct]
        split
        · rfl
        · simp
      · by_cases hl : a ∈ l
        · simp [hl, distinct]
        · simp [hl, hb, distinct]

theorem distinct_eq_self {α : Type} [DecidableEq α] {l : List α} (h : l.Nodup) : distinct l = l := by
  induction l with
  | nil => rfl
  | cons b l ih =>
      obtain ⟨hb, hl⟩ := List.nodup_cons.1 h
      simp only [distinct, ih hl]
      congr 1
      apply List.filter_eq_self.2
      intro a ha
      simpa using fun hab : a = b => hb (hab ▸ ha)

/-- Items at the end add nothing exactly when all of them have occurred before. -/
theorem distinct_append_eq_iff {α : Type} [DecidableEq α] {l m : List α} :
    distinct (l ++ m) = distinct l ↔ ∀ a ∈ m, a ∈ l := by
  constructor
  · intro h a ha
    have hmem : a ∈ distinct (l ++ m) := mem_distinct.2 (List.mem_append_right l ha)
    rw [h] at hmem
    exact mem_distinct.1 hmem
  · intro h
    induction m generalizing l with
    | nil => rw [List.append_nil]
    | cons a m ih =>
        rw [List.forall_mem_cons] at h
        rw [List.append_cons, ih fun b hb => List.mem_append_left _ (h.2 b hb), distinct_concat,
          if_pos h.1]

/-- Items may be taken out before repeats are left out, or after. -/
theorem distinct_filter {α : Type} [DecidableEq α] (p : α → Bool) (l : List α) :
    distinct (l.filter p) = (distinct l).filter p := by
  induction l with
  | nil => rfl
  | cons b l ih =>
      by_cases hb : p b = true
      · rw [List.filter_cons_of_pos hb, distinct, distinct, ih, List.filter_cons_of_pos hb,
          List.filter_filter, List.filter_filter]
        congr 1
        exact List.filter_congr fun a _ => Bool.and_comm _ _
      · rw [List.filter_cons_of_neg hb, distinct, ih, List.filter_cons_of_neg hb, List.filter_filter]
        refine List.filter_congr fun a _ => ?_
        by_cases hab : a = b
        · simp [hab, hb]
        · simp [hab]

/-- Keeping the first occurrence of every item is erasing the later ones. -/
theorem distinct_eq_eraseDups {α : Type} [DecidableEq α] (l : List α) : distinct l = l.eraseDups := by
  induction hlength : l.length using Nat.strongRecOn generalizing l with
  | ind n ih =>
      cases l with
      | nil => rfl
      | cons a l =>
          have hshorter : (l.filter fun b => !b == a).length < n := by
            rw [← hlength, List.length_cons]
            exact Nat.lt_succ_of_le (List.length_filter_le _ _)
          rw [List.eraseDups_cons, distinct, ← ih _ hshorter _ rfl, distinct_filter]
          congr 1
          refine List.filter_congr fun b _ => ?_
          by_cases hb : b = a <;> simp [hb]

end VideoBundle
