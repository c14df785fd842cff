import VideoBundle.SourceTable

/-!
# What a source table holds

A source table is made from files in some order, under whatever spellings of their paths.  Under a
canonical path it holds the text of the last file that is spelled so.

Main results:

- `find?_ofFields`: the text under a path.
- `isOk_ofFields_iff`: which files can be entered.
-/

namespace VideoBundle
namespace SourceTable

variable {τ : Type}

/-- The text of the last file whose path has a canonical spelling. -/
def latest (path : String) : List (String × Value τ) → Option τ
  | [] => none
  | (spelling, contents) :: files =>
      (latest path files).or
        (if Path.canonical? spelling = some path then contents.text? else none)

/-- Files with texts under paths that lead somewhere. -/
def Enterable (files : List (String × Value τ)) : Prop :=
  ∀ file ∈ files, (Path.canonical? file.1).isSome ∧ file.2.text?.isSome

instance (files : List (String × Value τ)) : Decidable (Enterable files) :=
  inferInstanceAs (Decidable (∀ file ∈ files, _))

section Entering

variable [FileText τ] {files : List (String × Value τ)}

/-- What entering a file takes and does. -/
theorem enter_eq_ok_iff {table table' : SourceTable} {spelling : String} {contents : Value τ} :
    table.enter spelling contents = .ok table' ↔
      ∃ path t, Path.canonical? spelling = some path ∧ contents.text? = some t ∧
        table' = table.insert path (FileText.source t) := by
  cases contents <;> simp [enter, Value.text?]
  case text source =>
    unfold Path.canonical
    cases Path.canonical? spelling <;> simp [Except.map, eq_comm]

/-- What is found under a path is its latest text, or what was there. -/
theorem find?_enterAll {table table' : SourceTable} (h : table.enterAll files = .ok table')
    (path : String) :
    table'.find? path = ((latest path files).map FileText.source).or (table.find? path) := by
  induction files generalizing table with
  | nil =>
      cases h
      rfl
  | cons file files ih =>
      obtain ⟨spelling, contents⟩ := file
      simp only [enterAll] at h
      split at h
      · rename_i table₁ henter
        obtain ⟨path', t, hpath, htext, rfl⟩ := enter_eq_ok_iff.1 henter
        rw [ih h, OrderedMap.find?_insert, latest, hpath, htext, Option.map_or, Option.or_assoc]
        congr 1
        by_cases heq : path = path'
        · simp [heq]
        · simp [heq, Ne.symm heq]
      · simp at h

/-- Under a path a source table holds the text of the last file that is spelled so. -/
theorem find?_ofFields {table : SourceTable} (h : ofFields files = .ok table) (path : String) :
    table.find? path = (latest path files).map FileText.source := by
  simpa using find?_enterAll h path

/-- Entering files succeeds exactly when each of them can be entered. -/
theorem isOk_enterAll_iff {table : SourceTable} :
    (∃ table', table.enterAll files = .ok table') ↔ Enterable files := by
  induction files generalizing table with
  | nil => simp [enterAll, Enterable]
  | cons file files ih =>
      obtain ⟨spelling, contents⟩ := file
      simp only [enterAll, Enterable, List.forall_mem_cons]
      constructor
      · rintro ⟨table', h⟩
        split at h
        · rename_i table₁ henter
          obtain ⟨path, source, hpath, hsource, _⟩ := enter_eq_ok_iff.1 henter
          exact ⟨by simp [hpath, hsource], ih.1 ⟨table', h⟩⟩
        · simp at h
      · rintro ⟨⟨hpath, hsource⟩, hfiles⟩
        obtain ⟨path, hpath⟩ := Option.isSome_iff_exists.1 hpath
        obtain ⟨source, hsource⟩ := Option.isSome_iff_exists.1 hsource
        rw [enter_eq_ok_iff.2 ⟨path, source, hpath, hsource, rfl⟩]
        exact ih.2 hfiles

/-- Files can be entered exactly if each spelling is a path and each value a text. -/
theorem isOk_ofFields_iff : (∃ table, ofFields files = .ok table) ↔ Enterable files :=
  isOk_enterAll_iff

end Entering

/-- The latest text of a path stands under one of its spellings. -/
theorem latest_eq_some {path : String} {t : τ} {files : List (String × Value τ)}
    (h : latest path files = some t) :
    ∃ spelling, Path.canonical? spelling = some path ∧ (spelling, .text t) ∈ files := by
  induction files with
  | nil => simp [latest] at h
  | cons file files ih =>
      obtain ⟨spelling, contents⟩ := file
      rw [latest, Option.or_eq_some_iff] at h
      rcases h with h | ⟨_, h⟩
      · obtain ⟨other, hpath, hmem⟩ := ih h
        exact ⟨other, hpath, List.mem_cons_of_mem _ hmem⟩
      · split at h
        · rename_i hpath
          cases contents <;> simp [Value.text?] at h
          exact ⟨spelling, hpath, by simp [h]⟩
        · simp at h

/-- The paths of a source table are canonical. -/
theorem canonical_of_contains [FileText τ] {files : List (String × Value τ)} {table : SourceTable}
    (h : ofFields files = .ok table) {path : String} (hcontains : table.contains path = true) :
    ∃ spelling, Path.canonical? spelling = some path := by
  obtain ⟨source, hfind⟩ := OrderedMap.contains_eq_true_iff.1 hcontains
  rw [find?_ofFields h] at hfind
  obtain ⟨t, hlatest, -⟩ := Option.map_eq_some_iff.1 hfind
  obtain ⟨spelling, hpath, _⟩ := latest_eq_some hlatest
  exact ⟨spelling, hpath⟩

end SourceTable
end VideoBundle
