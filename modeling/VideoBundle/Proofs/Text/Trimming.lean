import VideoBundle.Text.Blank

/-!
# Trimming texts

A text that neither starts nor ends with a character of some class is what is left when characters of
that class around it are dropped.

Main results:

- `Bare.append`: a text is bare when it starts and ends with bare texts.
- `strip_pad`: stripping a text gives back what blanks were put around.
-/

namespace VideoBundle
namespace Text

/-- What is said of every character of a text is decided character by character; deciding it for every
character there is would take too long. -/
instance (priority := 2000) decidableForallMem (p : Char → Prop) [DecidablePred p] (cs : List Char) :
    Decidable (∀ c ∈ cs, p c) :=
  List.decidableBAll p cs

variable {p : Char → Bool} {cs ds front back : List Char}

/-- A text that neither starts nor ends with a character of a class, and is not empty. -/
structure Bare (p : Char → Bool) (cs : List Char) : Prop where
  first : ∃ c rest, cs = c :: rest ∧ p c = false
  last : ∃ rest c, cs = rest ++ [c] ∧ p c = false

theorem Bare.ne_nil (h : Bare p cs) : cs ≠ [] := by
  obtain ⟨c, rest, rfl, _⟩ := h.first
  exact List.cons_ne_nil c rest

/-- A text without characters of the class is bare. -/
theorem Bare.of_forall (hne : cs ≠ []) (h : ∀ c ∈ cs, p c = false) : Bare p cs where
  first := by
    obtain ⟨c, rest, rfl⟩ := List.exists_cons_of_ne_nil hne
    exact ⟨c, rest, rfl, h c List.mem_cons_self⟩
  last := by
    obtain ⟨rest, c, heq⟩ := (List.eq_nil_or_concat cs).resolve_left hne
    exact ⟨rest, c, by rw [heq, List.concat_eq_append], h c (by simp [heq])⟩

/-- Whatever stands between two bare texts, the whole is bare. -/
theorem Bare.append (hcs : Bare p cs) (between : List Char) (hds : Bare p ds) :
    Bare p (cs ++ between ++ ds) where
  first := by
    obtain ⟨c, rest, rfl, hc⟩ := hcs.first
    exact ⟨c, rest ++ between ++ ds, by simp, hc⟩
  last := by
    obtain ⟨rest, c, rfl, hc⟩ := hds.last
    exact ⟨cs ++ between ++ rest, c, by simp, hc⟩

/-- Characters in front of a bare text are dropped up to it, whatever follows. -/
theorem Bare.dropWhile (h : Bare p cs) (hfront : ∀ c ∈ front, p c = true) :
    (front ++ cs ++ back).dropWhile p = cs ++ back := by
  obtain ⟨c, rest, rfl, hc⟩ := h.first
  rw [List.append_assoc, List.dropWhile_append_of_pos hfront, List.cons_append,
    List.dropWhile_cons_of_neg (by simp [hc])]

/-- Characters behind a bare text are dropped up to it, whatever stands in front. -/
theorem Bare.dropRightWhile (h : Bare p cs) (hback : ∀ c ∈ back, p c = true) :
    dropRightWhile p (front ++ cs ++ back) = front ++ cs := by
  obtain ⟨rest, c, rfl, hc⟩ := h.last
  have hreverse : ∀ c ∈ back.reverse, p c = true := fun c hmem =>
    hback c (List.mem_reverse.1 hmem)
  rw [Text.dropRightWhile, List.reverse_append, List.dropWhile_append_of_pos hreverse,
    ← List.append_assoc, List.reverse_append, List.reverse_singleton, List.singleton_append,
    List.dropWhile_cons_of_neg (by simp [hc]), List.reverse_cons, List.reverse_reverse]

/-- Dropping characters of a class at either end leaves the bare text between them. -/
theorem Bare.trim (h : Bare p cs) (hfront : ∀ c ∈ front, p c = true)
    (hback : ∀ c ∈ back, p c = true) :
    Text.dropRightWhile p ((front ++ cs ++ back).dropWhile p) = cs := by
  rw [h.dropWhile hfront, ← List.nil_append cs, h.dropRightWhile hback]

/-- A bare text has no characters to drop. -/
theorem Bare.trim_self (h : Bare p cs) : Text.dropRightWhile p (cs.dropWhile p) = cs := by
  simpa using h.trim (List.forall_mem_nil _) (List.forall_mem_nil _)

/-- Blanks in front are dropped whatever follows. -/
theorem stripLeft_append (h : ∀ c ∈ front, isBlank c = true) (rest : List Char) :
    stripLeft (front ++ rest) = stripLeft rest :=
  List.dropWhile_append_of_pos h

/-- A text that begins with no blank is left as it is. -/
theorem stripLeft_cons {c : Char} (hc : isBlank c = false) (rest : List Char) :
    stripLeft (c :: rest) = c :: rest :=
  List.dropWhile_cons_of_neg (by simp [hc])

/-- Stripping ends at a character that is no blank. -/
theorem isBlank_of_stripLeft_eq_cons {c : Char} {cs rest : List Char} (h : stripLeft cs = c :: rest) :
    isBlank c = false := by
  have hhead := List.head?_dropWhile_not isBlank cs
  rw [← stripLeft, h] at hhead
  exact hhead

/-- A text is blanks and what stands behind them. -/
theorem exists_append_stripLeft (cs : List Char) :
    ∃ blanks, (∀ c ∈ blanks, isBlank c = true) ∧ cs = blanks ++ stripLeft cs :=
  ⟨cs.takeWhile isBlank, fun c hc => List.all_eq_true.1 List.all_takeWhile c hc,
    List.takeWhile_append_dropWhile.symm⟩

/-- Stripping takes away the blanks around a text. -/
theorem strip_pad (h : Bare isBlank cs) (hfront : ∀ c ∈ front, isBlank c = true)
    (hback : ∀ c ∈ back, isBlank c = true) : strip (front ++ cs ++ back) = cs :=
  h.trim hfront hback

/-- A text without blanks at its ends is not changed by stripping. -/
theorem strip_eq_self (h : Bare isBlank cs) : strip cs = cs :=
  h.trim_self

end Text
end VideoBundle
