import VideoBundle.Project.Request
import VideoBundle.Proofs.Json.RoundTrip
import VideoBundle.Proofs.Outcomes

/-!
# Two ways to give files

The files of a request come as an object or as the JSON text of one.  Either way the same files are taken
over in the same order, or the same entry is the error: the first that is no text.

Main results:

- `filesOfFields_eq_ok_iff`, `filesOfFields_eq_error_iff`: the outcome for the entries of an object.
- `filesOfValue_encode`: an object and its JSON text have the same outcome.
-/

namespace VideoBundle
namespace Request

/-- Files as the entries of an object. -/
def textEntries (files : List (String × String)) : Fields :=
  files.map fun file => (file.1, .text file.2)

variable {entries : Fields}

theorem keys_textEntries (files : List (String × String)) :
    (textEntries files).map Prod.fst = files.map Prod.fst := by
  rw [textEntries, List.map_map]
  rfl

/-- Entries are files, up to the first that is no text if there is one. -/
theorem textEntries_cases (entries : Fields) :
    (∃ files, entries = textEntries files) ∨
      ∃ before path v after, entries = textEntries before ++ (path, v) :: after ∧ v.text? = none := by
  induction entries with
  | nil => exact .inl ⟨[], rfl⟩
  | cons entry entries ih =>
      obtain ⟨path, v⟩ := entry
      cases v with
      | text source =>
          rcases ih with ⟨files, rfl⟩ | ⟨before, other, v, after, rfl, hv⟩
          · exact .inl ⟨(path, source) :: files, rfl⟩
          · exact .inr ⟨(path, source) :: before, other, v, after, rfl, hv⟩
      | _ => exact .inr ⟨[], path, _, entries, rfl, rfl⟩

/-- Entries that are all texts are files. -/
theorem filesOfFields_textEntries (files : List (String × String)) :
    filesOfFields (textEntries files) = .ok files := by
  induction files with
  | nil => rfl
  | cons file files ih =>
      rw [textEntries] at ih
      rw [textEntries, List.map_cons, filesOfFields, ih]

/-- The first entry that is no text is the one that is reported. -/
theorem filesOfFields_textEntries_append (before : List (String × String)) (path : String)
    {v : Value String} (hv : v.text? = none) (after : Fields) :
    filesOfFields (textEntries before ++ (path, v) :: after) = .error (.fileNotText path) := by
  induction before with
  | nil =>
      cases v with
      | text source => cases hv
      | _ => rfl
  | cons file before ih =>
      rw [textEntries] at ih
      rw [textEntries, List.map_cons, List.cons_append, filesOfFields, ih]

/-- Entries give files when all of them are texts. -/
theorem filesOfFields_eq_ok_iff {files : List (String × String)} :
    filesOfFields entries = .ok files ↔ entries = textEntries files := by
  constructor
  · intro h
    rcases textEntries_cases entries with ⟨others, rfl⟩ | ⟨before, path, v, after, rfl, hv⟩
    · rw [filesOfFields_textEntries] at h
      cases h
      rfl
    · rw [filesOfFields_textEntries_append before path hv after] at h
      cases h
  · rintro rfl
    exact filesOfFields_textEntries files

/-- The error names the first entry that is no text. -/
theorem filesOfFields_eq_error_iff {e : RequestError} :
    filesOfFields entries = .error e ↔
      ∃ before path v after, entries = textEntries before ++ (path, v) :: after ∧ v.text? = none ∧
        e = .fileNotText path := by
  constructor
  · intro h
    rcases textEntries_cases entries with ⟨files, rfl⟩ | ⟨before, path, v, after, rfl, hv⟩
    · rw [filesOfFields_textEntries] at h
      cases h
    · rw [filesOfFields_textEntries_append before path hv after] at h
      cases h
      exact ⟨before, path, v, after, rfl, hv, rfl⟩
  · rintro ⟨before, path, v, after, rfl, hv, rfl⟩
    exact filesOfFields_textEntries_append before path hv after

/-! ## Whole arguments -/

/-- An object is read as files entry by entry. -/
theorem filesOfValue_object (entries : Fields) :
    filesOfValue (.object entries) =
      (filesOfFields entries).map fun files => some (OrderedMap.ofList files) := by
  cases h : filesOfFields entries <;> simp [filesOfValue, filesOfObject, h, Except.map]

/-- An object whose keys are distinct gives exactly its entries, in their order. -/
theorem filesOfValue_object_eq_ok_iff (hkeys : (entries.map Prod.fst).Nodup)
    {files : Option ProjectFiles} :
    filesOfValue (.object entries) = .ok files ↔
      ∃ taken : ProjectFiles, files = some taken ∧ entries = textEntries taken.entries := by
  rw [filesOfValue_object, map_eq_ok_iff]
  constructor
  · rintro ⟨list, hlist, rfl⟩
    obtain rfl := filesOfFields_eq_ok_iff.1 hlist
    rw [keys_textEntries] at hkeys
    refine ⟨OrderedMap.ofList list, rfl, congrArg textEntries ?_⟩
    exact (collapseEntries_of_nodup hkeys).symm
  · rintro ⟨taken, rfl, rfl⟩
    exact ⟨taken.entries, filesOfFields_textEntries _, congrArg some (OrderedMap.ofList_entries taken)⟩

/-- A JSON text that decodes to an object stands for that object. -/
theorem filesOfValue_text {source : String} (h : Json.decode source = .ok (.object entries)) :
    filesOfValue (.text source) = filesOfValue (.object entries) := by
  simp only [filesOfValue, h]

/-- Files given as a JSON text and as an object have the same outcome, if every key of an object stands
once and no integer has too many digits to be written.  Either all entries are texts and are taken over
in their order, or the first that is none is named by the error. -/
theorem filesOfValue_encode (hkeys : (Value.object entries).HasDistinctKeys)
    (hwritable : (Value.object entries).isWritable = true) :
    filesOfValue (.text (Json.encode (.object entries))) = filesOfValue (.object entries) ∧
      (∀ files, filesOfValue (.object entries) = .ok files ↔
        ∃ taken : ProjectFiles, files = some taken ∧ entries = textEntries taken.entries) ∧
      ∀ e, filesOfValue (.object entries) = .error e ↔
        ∃ before path v after, entries = textEntries before ++ (path, v) :: after ∧ v.text? = none ∧
          e = .fileNotText path := by
  refine ⟨filesOfValue_text (Json.decode_encode _ hwritable hkeys), fun files => ?taken, fun e => ?named⟩
  case taken => exact filesOfValue_object_eq_ok_iff (Value.hasDistinctKeys_object_iff.1 hkeys).1
  case named => rw [filesOfValue_object, map_eq_error_iff, filesOfFields_eq_error_iff]

/-- Two files with characters that are escaped, and an entry that is none. -/
def mixedEntries : Fields :=
  textEntries [("/a.ts", "\"\\\n\x7f"), ("/\u2028😀", "")] ++
    [("/b.ts",
      .list [.number (.int (-7)), .number (.float .nan), .object [("k", .null), ("", .text "x")]])]

/-- With the entry the error names it; without it both files are taken. -/
theorem filesOfValue_encode_mixedEntries :
    (Value.object mixedEntries).HasDistinctKeys ∧ (Value.object mixedEntries).isWritable = true ∧
      filesOfValue (.text (Json.encode (.object mixedEntries))) = .error (.fileNotText "/b.ts") ∧
      filesOfValue (.text (Json.encode (.object (mixedEntries.take 2)))) =
        .ok (some ⟨[("/a.ts", "\"\\\n\x7f"), ("/\u2028😀", "")], by decide⟩) := by
  have hkeys : (Value.object mixedEntries).HasDistinctKeys := by
    simp [mixedEntries, textEntries, Value.HasDistinctKeys, Value.Everywhere, Value.EverywhereEntries,
      Value.EverywhereItems]
  have hkeysTaken : (Value.object (mixedEntries.take 2)).HasDistinctKeys := by
    simp [mixedEntries, textEntries, Value.HasDistinctKeys, Value.Everywhere, Value.EverywhereEntries]
  have hwritable : (Value.object mixedEntries).isWritable = true := by rfl
  obtain ⟨hsame, -, hnamed⟩ := filesOfValue_encode hkeys hwritable
  obtain ⟨hsameTaken, htaken, -⟩ := filesOfValue_encode hkeysTaken rfl
  refine ⟨hkeys, hwritable, hsame.trans ((hnamed _).2 ⟨_, _, _, _, rfl, rfl, rfl⟩), ?_⟩
  exact hsameTaken.trans ((htaken _).2 ⟨_, rfl, rfl⟩)

end Request
end VideoBundle
