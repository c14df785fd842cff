import Mathlib.Data.List.Basic
import VideoBundle.HostPackage.ExportNames

/-!
# Spelling of usable names

The filter on export names looks at a name without a line feed at its end.  So a name passes as it is
spelled, or with one line feed more; in every other position a line feed, like any character outside
identifiers, keeps a name out.

Main results:

- `isIdentifier_toList_iff`: the filter for identifiers accepts what is spelled as one.
- `isExportName_iff`: the spellings that pass.
- `usableNames_spelling`: which names of a list are usable, and when these are its identifiers.
-/

namespace VideoBundle

/-- A text that is, from its first character to its last, a letter of ASCII, an underscore or a dollar
sign, followed by such characters and decimal digits only. -/
def IsSpelledName (name : String) : Prop :=
  ∃ first rest, name.toList = first :: rest ∧
    (first.isAlpha = true ∨ first = '_' ∨ first = '$') ∧
      ∀ c ∈ rest, c.isAlphanum = true ∨ c = '_' ∨ c = '$'

/-- The first character of a usable name: a letter, an underscore or a dollar sign. -/
theorem isIdentifierStart_iff {c : Char} :
    isIdentifierStart c = true ↔ c.isAlpha = true ∨ c = '_' ∨ c = '$' := by
  have hupper : c.isUpper = true ↔ 'A' ≤ c ∧ c ≤ 'Z' := decide_eq_true_iff
  have hlower : c.isLower = true ↔ 'a' ≤ c ∧ c ≤ 'z' :=
    Bool.and_eq_true_iff.trans (and_congr decide_eq_true_iff decide_eq_true_iff)
  have halpha : c.isAlpha = true ↔ c.isUpper = true ∨ c.isLower = true := Bool.or_eq_true_iff
  rw [halpha, hupper, hlower, or_comm (a := 'A' ≤ c ∧ c ≤ 'Z')]
  simp only [isIdentifierStart, Bool.or_eq_true, Bool.and_eq_true, decide_eq_true_eq, or_assoc]

/-- The other characters of a usable name: digits may stand there too. -/
theorem isIdentifierPart_iff {c : Char} :
    isIdentifierPart c = true ↔ c.isAlphanum = true ∨ c = '_' ∨ c = '$' := by
  have hdigit : c.isDigit = true ↔ '0' ≤ c ∧ c ≤ '9' :=
    Bool.and_eq_true_iff.trans (and_congr decide_eq_true_iff decide_eq_true_iff)
  have halphanum : c.isAlphanum = true ↔ c.isAlpha = true ∨ c.isDigit = true :=
    Bool.or_eq_true_iff
  rw [halphanum, hdigit, isIdentifierPart, Bool.or_eq_true, isIdentifierStart_iff, Bool.and_eq_true,
    decide_eq_true_eq, decide_eq_true_eq, or_right_comm]

/-- The filter for identifiers accepts what is spelled as one. -/
theorem isIdentifier_toList_iff {name : String} :
    isIdentifier name.toList = true ↔ IsSpelledName name := by
  rw [IsSpelledName]
  cases name.toList with
  | nil => simp [isIdentifier]
  | cons first rest =>
      simp [isIdentifier, isIdentifierStart_iff, isIdentifierPart_iff, and_assoc]

/-- A line feed occurs in no name. -/
theorem IsSpelledName.newline_not_mem {name : String} (h : IsSpelledName name) :
    '\n' ∉ name.toList := by
  obtain ⟨first, rest, hname, hfirst, hrest⟩ := h
  rw [hname, List.mem_cons, not_or]
  constructor
  · rintro rfl
    exact absurd hfirst (by decide)
  · intro hmem
    exact absurd (hrest '\n' hmem) (by decide)

/-- A name passes as it is spelled, or with a line feed behind it. -/
theorem isExportName_iff {name : String} :
    isExportName name = true ↔
      name ≠ "default" ∧ (IsSpelledName name ∨ ∃ stem, IsSpelledName stem ∧ name = stem ++ "\n") := by
  rw [isExportName, Bool.and_eq_true, bne_iff_ne, and_congr_right_iff]
  intro _
  rw [dropFinalNewline]
  split
  case isTrue hlast =>
    have hname : name = String.ofList name.toList.dropLast ++ "\n" := by
      apply String.toList_injective
      simpa using (List.dropLast_append_getLast? '\n' hlast).symm
    have hstem : isIdentifier name.toList.dropLast = true ↔
        IsSpelledName (String.ofList name.toList.dropLast) := by
      rw [← isIdentifier_toList_iff, String.toList_ofList]
    rw [hstem]
    constructor
    · exact fun h => .inr ⟨_, h, hname⟩
    · rintro (h | ⟨stem, h, rfl⟩)
      · exact absurd (List.mem_of_getLast? hlast) h.newline_not_mem
      · simpa using h
  case isFalse hlast =>
    rw [isIdentifier_toList_iff]
    constructor
    · exact .inl
    · rintro (h | ⟨stem, _, rfl⟩)
      · exact h
      · exact absurd (by simp) hlast

/-- The usable names of a list increase strictly; they are the identifiers of the list other than
`default`, as they are or with a line feed behind them.  They are the identifiers alone, and are free
of line feeds, exactly when no identifier of the list has a line feed behind it. -/
theorem usableNames_spelling (names : List String) :
    (usableNames names).Pairwise (· < ·) ∧
      (∀ name, name ∈ usableNames names ↔ name ∈ names ∧ name ≠ "default" ∧
        (IsSpelledName name ∨ ∃ stem, IsSpelledName stem ∧ name = stem ++ "\n")) ∧
      ((∀ name, name ∈ usableNames names ↔
          name ∈ names ∧ name ≠ "default" ∧ IsSpelledName name) ↔
        ∀ stem, IsSpelledName stem → stem ++ "\n" ∉ names) ∧
      ((∀ name ∈ usableNames names, '\n' ∉ name.toList) ↔
        ∀ stem, IsSpelledName stem → stem ++ "\n" ∉ names) := by
  have hmem : ∀ name, name ∈ usableNames names ↔ name ∈ names ∧ name ≠ "default" ∧
      (IsSpelledName name ∨ ∃ stem, IsSpelledName stem ∧ name = stem ++ "\n") := fun name => by
    rw [mem_usableNames, isExportName_iff]
  have hextended : ∀ stem, '\n' ∈ (stem ++ "\n").toList := fun stem => by simp
  have hdefault : ∀ stem, stem ++ "\n" ≠ "default" := fun stem heq =>
    absurd (heq ▸ hextended stem) (by decide)
  have hpassed : ∀ stem, IsSpelledName stem → stem ++ "\n" ∈ names →
      stem ++ "\n" ∈ usableNames names := fun stem hstem hname =>
    (hmem _).2 ⟨hname, hdefault stem, .inr ⟨stem, hstem, rfl⟩⟩
  refine ⟨pairwise_usableNames names, hmem, ⟨?exactly, ?onlySpelled⟩, ⟨?lineFree, ?noLineFeed⟩⟩
  case exactly =>
    intro h stem hstem hname
    exact ((h _).1 (hpassed stem hstem hname)).2.2.newline_not_mem (hextended stem)
  case onlySpelled =>
    intro h name
    rw [hmem]
    refine and_congr_right fun hname => and_congr_right fun _ => or_iff_left ?_
    rintro ⟨stem, hstem, rfl⟩
    exact h stem hstem hname
  case lineFree =>
    intro h stem hstem hname
    exact h _ (hpassed stem hstem hname) (hextended stem)
  case noLineFeed =>
    intro h name hname
    rcases ((hmem name).1 hname).2.2 with hspelled | ⟨stem, hstem, rfl⟩
    · exact hspelled.newline_not_mem
    · exact absurd ((hmem _).1 hname).1 (h stem hstem)

/-- The one name of a list, a letter with a line feed behind it, is usable and no identifier. -/
theorem usableNames_lineFeed :
    ¬∀ names : List String, (usableNames names).Pairwise (· < ·) ∧
      ∀ name, name ∈ usableNames names ↔ name ∈ names ∧ name ≠ "default" ∧ IsSpelledName name := by
  intro h
  have husable : "a\n" ∈ usableNames ["a\n"] := mem_usableNames.2 ⟨by simp, by decide⟩
  have hspelled := ((h ["a\n"]).2 "a\n").1 husable
  exact hspelled.2.2.newline_not_mem (by decide)

end VideoBundle
