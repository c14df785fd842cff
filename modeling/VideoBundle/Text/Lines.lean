/-!
# Lines

A text falls into lines at every line boundary of Unicode; a carriage return followed by a line feed
is one boundary.  The boundary after the last line is optional.  Texts read from files have the two
spellings with a carriage return replaced by a line feed.

Main results:

- `splitLines_append_newline`: a text that ends in a line feed does not share a line with what
  follows it.
- `splitLines_line`: text without boundaries in front of a line feed is one line.
- `splitWhere_append_cons`, `splitWhere_intercalate`: pieces without cuts are told apart again.
-/

namespace VideoBundle
namespace Text

/-- Whether a character ends a line. -/
def isLineBoundary (c : Char) : Bool :=
  c.toNat ∈ [0xA, 0xB, 0xC, 0xD, 0x1C, 0x1D, 0x1E, 0x85, 0x2028, 0x2029]

/-- The lines of a text without their boundaries. -/
def splitLines : List Char → List (List Char)
  | [] => []
  | '\r' :: '\n' :: cs => [] :: splitLines cs
  | c :: cs =>
      if isLineBoundary c then
        [] :: splitLines cs
      else
        match splitLines cs with
        | [] => [[c]]
        | line :: lines => (c :: line) :: lines

/-- A boundary ends an empty line, unless it is half of a pair that ends it together. -/
theorem splitLines_boundary {c : Char} (hc : isLineBoundary c = true) {cs : List Char}
    (h : c = '\r' → cs.head? ≠ some '\n') : splitLines (c :: cs) = [] :: splitLines cs := by
  rw [splitLines.eq_3, if_pos hc]
  rintro rest rfl rfl
  exact h rfl rfl

/-- Any other character belongs to the first line. -/
theorem splitLines_cons {c : Char} (hc : isLineBoundary c = false) (cs : List Char) :
    splitLines (c :: cs) =
      match splitLines cs with
      | [] => [[c]]
      | line :: lines => (c :: line) :: lines := by
  rw [splitLines.eq_3, hc, if_neg Bool.false_ne_true]
  rintro rest rfl rfl
  exact absurd hc (by decide)

/-- A text that is not empty has a line. -/
theorem splitLines_ne_nil {cs : List Char} (h : cs ≠ []) : splitLines cs ≠ [] := by
  fun_cases splitLines cs with
  | case1 => exact absurd rfl h
  | case2 => simp
  | case3 => simp
  | case4 => simp
  | case5 => simp

/-- Text without boundaries is one line, unless it is empty. -/
theorem splitLines_of_forall {line : List Char} (h : ∀ c ∈ line, isLineBoundary c = false)
    (hne : line ≠ []) : splitLines line = [line] := by
  induction line with
  | nil => exact absurd rfl hne
  | cons c line ih =>
      rw [List.forall_mem_cons] at h
      rw [splitLines_cons h.1]
      cases line with
      | nil => rfl
      | cons d line => rw [ih h.2 (List.cons_ne_nil d line)]

/-- Text without boundaries in front of a line feed is one line. -/
theorem splitLines_line {line : List Char} (h : ∀ c ∈ line, isLineBoundary c = false)
    (rest : List Char) : splitLines (line ++ '\n' :: rest) = line :: splitLines rest := by
  induction line with
  | nil => exact splitLines_boundary (by decide) (by simp)
  | cons c line ih =>
      rw [List.forall_mem_cons] at h
      rw [List.cons_append, splitLines_cons h.1, ih h.2]

/-- Lines behind a text with a line are not affected by a character in front of that text. -/
theorem splitLines_cons_append {c : Char} (hc : isLineBoundary c = false) {cs front : List Char}
    {lines : List (List Char)} (hfront : front ≠ [])
    (h : splitLines cs = splitLines front ++ lines) :
    splitLines (c :: cs) = splitLines (c :: front) ++ lines := by
  rw [splitLines_cons hc, splitLines_cons hc, h]
  cases hsplit : splitLines front with
  | nil => exact absurd hsplit (splitLines_ne_nil hfront)
  | cons first others => rfl

/-- A line feed ends a line whatever stands around it. -/
theorem splitLines_append_newline (cs rest : List Char) :
    splitLines (cs ++ '\n' :: rest) = splitLines (cs ++ ['\n']) ++ splitLines rest := by
  have hnewline : ∀ rest, splitLines ('\n' :: rest) = [] :: splitLines rest := fun rest =>
    splitLines_boundary (by decide) (by simp)
  fun_induction splitLines cs with
  | case1 => simp [hnewline, splitLines]
  | case2 cs ih => simp [splitLines, ih]
  | case3 c cs hpair hc ih =>
      -- A carriage return at the very end goes with the line feed.
      by_cases hlast : c = '\r' ∧ cs = []
      · obtain ⟨rfl, rfl⟩ := hlast
        simp [splitLines]
      · have hhead : ∀ tail, c = '\r' → (cs ++ '\n' :: tail).head? ≠ some '\n' := by
          intro tail hreturn
          cases cs with
          | nil => exact absurd ⟨hreturn, rfl⟩ hlast
          | cons d cs => simpa using fun hd => hpair cs hreturn (by rw [hd])
        rw [List.cons_append, List.cons_append, splitLines_boundary hc (hhead rest),
          splitLines_boundary hc (hhead []), ih, List.cons_append]
  | case4 c cs _ hc _ ih => exact splitLines_cons_append (by simpa using hc) (by simp) ih
  | case5 c cs _ hc _ _ _ ih => exact splitLines_cons_append (by simpa using hc) (by simp) ih

/-- The text with every carriage return, alone or before a line feed, read as a line feed. -/
def unifyNewlines : List Char → List Char
  | [] => []
  | '\r' :: '\n' :: cs => '\n' :: unifyNewlines cs
  | c :: cs => (if c = '\r' then '\n' else c) :: unifyNewlines cs

/-- The pieces of a list between the items that satisfy `p`; there is always one more than cuts. -/
def splitWhere {α : Type} (p : α → Bool) : List α → List (List α)
  | [] => [[]]
  | x :: xs =>
      if p x then
        [] :: splitWhere p xs
      else
        match splitWhere p xs with
        | [] => [[x]]
        | piece :: pieces => (x :: piece) :: pieces

/-- Splitting always leaves a piece. -/
theorem splitWhere_ne_nil {α : Type} (p : α → Bool) (xs : List α) : splitWhere p xs ≠ [] := by
  cases xs with
  | nil => simp [splitWhere]
  | cons x xs =>
      simp only [splitWhere]
      split
      · simp
      · split <;> simp

/-- No piece holds an item at which the list is cut. -/
theorem not_of_mem_splitWhere {α : Type} (p : α → Bool) (xs : List α) :
    ∀ piece ∈ splitWhere p xs, ∀ x ∈ piece, p x = false := by
  induction xs with
  | nil => simp [splitWhere]
  | cons y ys ih =>
      intro piece hpiece x hx
      simp only [splitWhere] at hpiece
      split at hpiece
      · rcases List.mem_cons.1 hpiece with rfl | hpiece
        · simp at hx
        · exact ih piece hpiece x hx
      · rename_i hy
        split at hpiece
        · rename_i hnil
          exact absurd hnil (splitWhere_ne_nil p ys)
        · rename_i head tail hsplit
          rcases List.mem_cons.1 hpiece with rfl | hpiece
          · rcases List.mem_cons.1 hx with rfl | hx
            · simpa using hy
            · exact ih head (by simp [hsplit]) x hx
          · exact ih piece (by simp [hsplit, hpiece]) x hx

section Pieces

variable {α : Type} {p : α → Bool}

/-- A list without cuts is one piece. -/
theorem splitWhere_of_uncut {xs : List α} (h : ∀ x ∈ xs, p x = false) : splitWhere p xs = [xs] := by
  induction xs with
  | nil => rfl
  | cons x xs ih =>
      have hx : p x = false := h x List.mem_cons_self
      have hxs := ih fun y hy => h y (List.mem_cons_of_mem _ hy)
      simp [splitWhere, hx, hxs]

/-- The first piece ends at the first cut. -/
theorem splitWhere_append_cons {xs ys : List α} {cut : α} (h : ∀ x ∈ xs, p x = false)
    (hcut : p cut = true) : splitWhere p (xs ++ cut :: ys) = xs :: splitWhere p ys := by
  induction xs with
  | nil => simp [splitWhere, hcut]
  | cons x xs ih =>
      have hx : p x = false := h x List.mem_cons_self
      have hxs := ih fun y hy => h y (List.mem_cons_of_mem _ hy)
      simp [splitWhere, hx, hxs]

/-- Pieces without cuts are told apart again. -/
theorem splitWhere_intercalate {cut : α} (hcut : p cut = true)
    {pieces : List (List α)} (hne : pieces ≠ []) (h : ∀ piece ∈ pieces, ∀ x ∈ piece, p x = false) :
    splitWhere p ([cut].intercalate pieces) = pieces := by
  induction pieces with
  | nil => exact absurd rfl hne
  | cons piece pieces ih =>
      rw [List.forall_mem_cons] at h
      cases pieces with
      | nil => simpa using splitWhere_of_uncut h.1
      | cons next pieces =>
          rw [List.intercalate_cons_cons, List.append_assoc, List.singleton_append,
            splitWhere_append_cons h.1 hcut, ih (List.cons_ne_nil _ _) h.2]

/-- A cut anywhere splits the pieces in front of it from those behind it. -/
theorem splitWhere_append_cut {cut : α} (hcut : p cut = true) (xs ys : List α) :
    splitWhere p (xs ++ cut :: ys) = splitWhere p xs ++ splitWhere p ys := by
  induction xs with
  | nil => simp [splitWhere, hcut]
  | cons x xs ih =>
      rw [List.cons_append, splitWhere, splitWhere, ih]
      cases hx : p x with
      | true => rfl
      | false =>
          cases hxs : splitWhere p xs with
          | nil => exact absurd hxs (splitWhere_ne_nil p xs)
          | cons piece pieces => rfl

/-- A text in which every cut is spelled the same way falls into the same pieces. -/
theorem splitWhere_map {q : α → Bool} {f : α → α} (hcut : ∀ x, q (f x) = p x)
    (hpiece : ∀ x, p x = false → f x = x) (xs : List α) :
    splitWhere q (xs.map f) = splitWhere p xs := by
  induction xs with
  | nil => rfl
  | cons x xs ih =>
      rw [List.map_cons, splitWhere, splitWhere, ih, hcut]
      cases hx : p x with
      | true => rfl
      | false => rw [hpiece x hx]

end Pieces

end Text
end VideoBundle
