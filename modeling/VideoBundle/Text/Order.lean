import VideoBundle.Distinct

/-!
# Order of texts

Texts are ordered by the code points of their characters.

Main results:

- `mem_sortedSet`: sorting loses and adds no text.
- `sortTexts_eq_of_perm`: sorting forgets the order that was there before.
- `pairwise_sortedSet`: a sorted set increases strictly.
- `sortedSet_eq_self`: sorting leaves a list that increases strictly as it is.
-/

namespace VideoBundle

/-- The texts in ascending order. -/
def sortTexts (texts : List String) : List String :=
  texts.mergeSort fun a b => decide (a ≤ b)

/-- The texts in ascending order without repeats. -/
def sortedSet (texts : List String) : List String :=
  sortTexts (distinct texts)

/-- Sorting keeps the members. -/
@[simp]
theorem mem_sortTexts {text : String} {texts : List String} :
    text ∈ sortTexts texts ↔ text ∈ texts := by
  simp [sortTexts]

/-- Sorting loses and adds no text. -/
@[simp]
theorem mem_sortedSet {text : String} {texts : List String} :
    text ∈ sortedSet texts ↔ text ∈ texts := by
  simp [sortedSet, mem_distinct]

/-- What is sorted is in order. -/
theorem pairwise_sortTexts (texts : List String) : (sortTexts texts).Pairwise (· ≤ ·) := by
  have h := @List.pairwise_mergeSort String (fun a b => decide (a ≤ b))
    (fun a b c hab hbc => by
      simp only [decide_eq_true_eq] at hab hbc ⊢
      exact String.le_trans hab hbc)
    (fun a b => by
      simp only [Bool.or_eq_true, decide_eq_true_eq]
      exact String.le_total a b)
    texts
  exact h.imp fun hab => by simpa using hab

/-- Texts are in the same ascending order from whatever order they come. -/
theorem sortTexts_eq_of_perm {texts others : List String} (h : texts.Perm others) :
    sortTexts texts = sortTexts others := by
  have hperm : (sortTexts texts).Perm (sortTexts others) :=
    (List.mergeSort_perm texts _).trans (h.trans (List.mergeSort_perm others _).symm)
  exact hperm.eq_of_pairwise (fun _ _ _ _ hab hba => String.le_antisymm hab hba)
    (pairwise_sortTexts texts) (pairwise_sortTexts others)

/-- A sorted set increases strictly. -/
theorem pairwise_sortedSet (texts : List String) : (sortedSet texts).Pairwise (· < ·) := by
  have hle := pairwise_sortTexts (distinct texts)
  have hne : (sortedSet texts).Nodup :=
    (List.mergeSort_perm _ _).nodup_iff.2 (nodup_distinct texts)
  refine (hle.and hne).imp ?_
  rintro a b ⟨hab, hab'⟩
  apply Classical.byContradiction
  intro hlt
  exact hab' (String.le_antisymm hab (String.not_lt.1 hlt))

/-- A list of texts that increases strictly is its own sorted set. -/
theorem sortedSet_eq_self {texts : List String} (h : texts.Pairwise (· < ·)) :
    sortedSet texts = texts := by
  have hnodup : texts.Nodup := by
    refine h.imp ?_
    rintro a _ hlt rfl
    exact String.lt_irrefl a hlt
  have hperm : (sortTexts texts).Perm texts := List.mergeSort_perm texts _
  rw [sortedSet, distinct_eq_self hnodup]
  exact hperm.eq_of_pairwise (fun _ _ _ _ hab hba => String.le_antisymm hab hba)
    (pairwise_sortTexts texts) (h.imp fun hlt => String.not_lt.1 (String.lt_asymm hlt))

end VideoBundle
