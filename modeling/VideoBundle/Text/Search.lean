/-!
# Searching in texts

Positions count characters from zero.  A pattern may be empty and then occurs everywhere.

Main results:

- `exists_eq_append_of_lead`: a lead without some character ends in front of that character.
- `lastIndexOf?_isPrefixOf`: the reported position carries the pattern.
-/

namespace VideoBundle
namespace Text

/-- The rest of a text behind `lead`, if it starts with it. -/
def afterLead? : List Char → List Char → Option (List Char)
  | [], cs => some cs
  | _ :: _, [] => none
  | l :: ls, c :: cs => if l = c then afterLead? ls cs else none

/-- What follows a lead is the text itself. -/
theorem afterLead?_eq_some_iff {lead cs rest : List Char} :
    afterLead? lead cs = some rest ↔ cs = lead ++ rest := by
  induction lead generalizing cs with
  | nil => simp [afterLead?]
  | cons l ls ih =>
      cases cs with
      | nil => simp [afterLead?]
      | cons c cs =>
          by_cases h : l = c
          · simp [afterLead?, h, ih]
          · have h' : ¬c = l := fun e => h e.symm
            simp [afterLead?, h, h']

/-- A lead that does not have a character is found in front of it. -/
theorem exists_eq_append_of_lead {lead cs tail rest : List Char} {d : Char} (hlead : d ∉ lead)
    (h : cs ++ d :: tail = lead ++ rest) : ∃ more, cs = lead ++ more ∧ rest = more ++ d :: tail := by
  rcases List.append_eq_append_iff.1 h with ⟨more, rfl, hrest⟩ | ⟨more, rfl, hrest⟩
  · cases more with
    | nil => exact ⟨[], by simp, by simpa using hrest.symm⟩
    | cons c more =>
        rw [List.cons_append, List.cons.injEq] at hrest
        exact absurd (List.mem_append_right _ (hrest.1 ▸ List.mem_cons_self)) hlead
  · exact ⟨more, rfl, hrest⟩

/-- Whether the pattern occurs somewhere in a text. -/
def occursIn (pattern : List Char) : List Char → Bool
  | [] => pattern.isEmpty
  | c :: cs => pattern.isPrefixOf (c :: cs) || occursIn pattern cs

/-- The position of the last occurrence of a pattern. -/
def lastIndexOf? (pattern : List Char) : List Char → Option Nat
  | [] => if pattern.isEmpty then some 0 else none
  | c :: cs =>
      match lastIndexOf? pattern cs with
      | some i => some (i + 1)
      | none => if pattern.isPrefixOf (c :: cs) then some 0 else none

/-- The text at the reported position starts with the pattern. -/
theorem lastIndexOf?_isPrefixOf {pattern cs : List Char} {i : Nat}
    (h : lastIndexOf? pattern cs = some i) : pattern.isPrefixOf (cs.drop i) = true := by
  induction cs generalizing i with
  | nil =>
      cases pattern with
      | nil => simp
      | cons => simp [lastIndexOf?] at h
  | cons c cs ih =>
      simp only [lastIndexOf?] at h
      split at h
      · rename_i j hj
        cases h
        simpa using ih hj
      · split at h
        · rename_i hlead
          cases h
          simpa only [List.drop_zero] using hlead
        · cases h

/-- Positions of the matches of `width?` in a text, from left to right and without overlap.  A match
gives its width; `skip` characters belong to the match before. -/
def matchOffsets (width? : List Char → Option Nat) :
    (skip : Nat) → (offset : Nat) → List Char → List Nat
  | _, _, [] => []
  | skip + 1, offset, _ :: cs => matchOffsets width? skip (offset + 1) cs
  | 0, offset, c :: cs =>
      match width? (c :: cs) with
      | some width => offset :: matchOffsets width? (width - 1) (offset + 1) cs
      | none => matchOffsets width? 0 (offset + 1) cs

end Text
end VideoBundle
