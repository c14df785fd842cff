import VideoBundle.Proofs.Project.Answers
import VideoBundle.Proofs.Project.FileArguments

/-!
# Restoring documents

The wire form of a document names every field, so that a request that sends it back and asks for the
files to be replaced leaves nothing to the project before it, whatever that is.  The document comes back
if its measures pass the check of drafts; of positive numbers these are the ones that round to a binary
number.

Main results:

- `ofValue_restoring`: the wire form is read field by field.
- `draft_restoring`: nothing of the project before shows through.
- `toDocument_restoringRequest`: a document that was made of a draft comes back.
- `toDocument_restoring`: which documents come back.
-/

namespace VideoBundle

open Binary64 (overflowBound)

/-! ## Positive numbers -/

namespace Number

/-- Whether the value of a number is finite and greater than zero; every integer is finite. -/
def IsFinitePositive : Number → Prop
  | int i => 0 < i
  | float x => x.isFinite = true ∧ x.isNonpositive = false

/-- Whether a number rounds to a finite binary number, unless it is a binary number itself. -/
def fits : Number → Bool
  | int i => i.natAbs < overflowBound
  | float _ => true

/-- Positive numbers pass as measures when they fit, and cannot be tested otherwise. -/
theorem isPositive_of_isFinitePositive {n : Number} (h : n.IsFinitePositive) :
    n.isPositive = if n.fits then .ok true else .error .integerTooLarge := by
  cases n with
  | int i =>
      by_cases hfits : i.natAbs < overflowBound
      · rw [fits, decide_eq_true hfits, if_pos rfl]
        exact isPositive_int_iff.2 ⟨h, hfits⟩
      · rw [fits, decide_eq_false hfits, if_neg Bool.false_ne_true]
        exact isPositive_eq_error_iff.2 ⟨rfl, i, rfl, Nat.le_of_not_lt hfits⟩
  | float x => exact isPositive_float_iff.2 h

end Number

/-- Finite positive measures pass exactly if their integers fit a float. -/
theorem Draft.checkMeasures_of_isFinitePositive {measures : List (String × Number)}
    (h : ∀ m ∈ measures, m.2.IsFinitePositive) :
    checkMeasures measures =
      if (measures.map Prod.snd).all Number.fits then .ok ()
      else .error (.measureTooLarge .integerTooLarge) := by
  induction measures with
  | nil => rfl
  | cons m measures ih =>
      obtain ⟨name, n⟩ := m
      rw [List.forall_mem_cons] at h
      rw [checkMeasures, checkMeasure, Number.isPositive_of_isFinitePositive h.1, ih h.2,
        List.map_cons, List.all_cons]
      cases n.fits <;> rfl

/-! ## The wire form -/

namespace Document

/-- The request that sends a document back: its wire form, with the files to be replaced. -/
def restoring (d : Document) : Value String :=
  .object (d.fields ++ [("updateMode", .text UpdateMode.replace.name)])

/-- What is read of the request that sends a document back. -/
def restoringRequest (d : Document) : Request where
  title := some d.info.title
  compositionId := some d.info.compositionId
  width := some d.info.width
  height := some d.info.height
  fps := some d.info.fps
  durationInFrames := some d.info.durationInFrames
  entryFile := some d.entryFile
  files := some d.files
  defaultProps := some d.defaultProps
  inputProps := some d.inputProps
  usePreviousProject := true
  updateMode := .replace
  deleteFiles := []
  resetProject := false

/-- The files of a document are read back. -/
theorem filesOfValue_fields (files : ProjectFiles) :
    Request.filesOfValue (.object (ProjectFiles.fields files)) = .ok (some files) := by
  have hkeys : ((ProjectFiles.fields files).map Prod.fst).Nodup := by
    rw [show ProjectFiles.fields files = Request.textEntries files.entries from rfl,
      Request.keys_textEntries]
    exact files.distinctKeys
  exact (Request.filesOfValue_object_eq_ok_iff hkeys).2 ⟨files, rfl, rfl⟩

/-- The wire form of a document is read field by field. -/
theorem ofValue_restoring (d : Document) : Request.ofValue d.restoring = .ok d.restoringRequest := by
  have hfiles : Request.filesOfValue
      ((lookupEntry "files" (d.fields ++ [("updateMode", .text UpdateMode.replace.name)])).getD .null) =
        .ok (some d.files) := filesOfValue_fields d.files
  rw [restoring, Request.ofValue, Request.ofFields, hfiles]
  -- The other fields are found by their names, which are all given.
  rfl

/-- Every field is taken from the request, so that nothing of the project before shows through. -/
theorem draft_restoring (d : Document) (previous : Option Document) :
    (Resolution.ofRequest d.restoringRequest previous).draft =
      ⟨d.info, d.entryFile, some d.files, d.defaultProps, d.inputProps⟩ := by
  cases previous <;> rfl

/-- Every document that was made of a draft comes back whole. -/
theorem toDocument_restoringRequest {draft : Draft} {d : Document} (h : draft.toDocument = .ok d)
    (previous : Option Document) :
    (Resolution.ofRequest d.restoringRequest previous).draft.toDocument = .ok d := by
  obtain ⟨hdraft, hfiles, hcheck⟩ := Draft.toDocument_eq_ok_iff.1 h
  rw [hdraft, ← draft_restoring d previous] at hcheck
  exact Draft.toDocument_eq_ok_iff.2 ⟨draft_restoring d previous, hfiles, hcheck⟩

/-- A document that is sent back comes back whole, whatever project stands before it, if each of its
measures rounds to a binary number; otherwise the first measure that does not breaks its own test. -/
theorem toDocument_restoring {d : Document} (hfiles : d.files.isEmpty = false)
    (hmeasures : ∀ n ∈ d.info.measures, n.IsFinitePositive) (previous : Option Document) :
    ∃ request, Request.ofValue d.restoring = .ok request ∧
      (Resolution.ofRequest request previous).draft.toDocument =
        if d.info.measures.all Number.fits then .ok d
        else .error (.measureTooLarge .integerTooLarge) := by
  refine ⟨d.restoringRequest, ofValue_restoring d, ?_⟩
  have hcheck : Draft.checkMeasures
      (Draft.measures ⟨d.info, d.entryFile, some d.files, d.defaultProps, d.inputProps⟩) =
        if d.info.measures.all Number.fits then .ok ()
        else .error (.measureTooLarge .integerTooLarge) :=
    Draft.checkMeasures_of_isFinitePositive (List.forall_mem_map.1 hmeasures)
  simp only [draft_restoring, Draft.toDocument_eq, hfiles, Bool.false_eq_true, if_false, hcheck]
  split <;> rfl

/-- A document with empty titles and props, and with a width. -/
def plain (width : Number) : Document where
  info := ⟨"", "", width, .int 1, .float (.finite false Magnitude.least), .int 1⟩
  entryFile := ""
  files := OrderedMap.ofList [("b.ts", ""), ("/a.ts", "a;")]
  defaultProps := []
  inputProps := []

/-- A document with all fields filled. -/
def filled : Document where
  info := Meta.standard
  entryFile := "/src/Other.tsx"
  files := OrderedMap.ofList [("/a.ts", "other;"), ("/c.ts", "c;")]
  defaultProps := [("speed", .number (.int 2))]
  inputProps := [("nested", .object [("deep", .list [.null])])]

theorem isFinitePositive_plain {width : Number} (h : width.IsFinitePositive) :
    ∀ n ∈ (plain width).info.measures, n.IsFinitePositive := by
  have hone : (Number.int 1).IsFinitePositive := Int.one_pos
  simp only [plain, Meta.measures, List.forall_mem_cons]
  exact ⟨h, hone, ⟨rfl, rfl⟩, hone, List.forall_mem_nil _⟩

/-- Empty fields come back empty over a project that has all of them, even with the largest width that
fits. -/
theorem toDocument_restoring_plain :
    (plain (.int (overflowBound - 1))).files.isEmpty = false ∧
      (∀ n ∈ (plain (.int (overflowBound - 1))).info.measures, n.IsFinitePositive) ∧
      ∃ request, Request.ofValue (plain (.int (overflowBound - 1))).restoring = .ok request ∧
        (Resolution.ofRequest request (some filled)).draft.toDocument =
          .ok (plain (.int (overflowBound - 1))) := by
  have hfiles : (plain (.int (overflowBound - 1))).files.isEmpty = false := rfl
  have hmeasures : ∀ n ∈ (plain (.int (overflowBound - 1))).info.measures, n.IsFinitePositive :=
    isFinitePositive_plain (by decide +kernel : (0 : Int) < overflowBound - 1)
  have hfits : (plain (.int (overflowBound - 1))).info.measures.all Number.fits = true := by
    decide +kernel
  obtain ⟨request, hrequest, hdocument⟩ := toDocument_restoring hfiles hmeasures (some filled)
  rw [hfits, if_pos rfl] at hdocument
  exact ⟨hfiles, hmeasures, request, hrequest, hdocument⟩

/-- A document does not come back when a measure is an integer beyond the binary numbers. -/
theorem not_forall_toDocument_restoring :
    ¬∀ (d : Document) (previous : Option Document), d.files.isEmpty = false →
      (∀ n ∈ d.info.measures, n.IsFinitePositive) →
        ∃ request, Request.ofValue d.restoring = .ok request ∧
          (Resolution.ofRequest request previous).draft.toDocument = .ok d := by
  intro h
  obtain ⟨request, hrequest, hdocument⟩ := h (plain (.int (10 ^ 400))) none rfl
    (isFinitePositive_plain (by decide +kernel : (0 : Int) < 10 ^ 400))
  rw [ofValue_restoring] at hrequest
  cases hrequest
  rw [draft_restoring] at hdocument
  have hpositive := Draft.isPositive_of_toDocument hdocument (.int (10 ^ 400)) List.mem_cons_self
  have hsmall := (Number.isPositive_int_iff.1 hpositive).2
  revert hsmall
  decide +kernel

end Document
end VideoBundle
