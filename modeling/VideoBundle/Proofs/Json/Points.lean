import VideoBundle.Proofs.Json.Limits
import VideoBundle.Proofs.Text.Points

/-!
# Reading code points

Reading the code points of a string is reading the string: the same texts are accepted, and every text
of the value is read as the code points of its units.  The reader of values passes on what the reader of
texts gives, so that this is a matter of single texts.

Main results:

- `readsMapped`: readers of values whose readers of texts differ by a change of texts.
- `readPoints_ofString`: reading the code points of a string.
-/

namespace VideoBundle
namespace Json

/-! ## Texts of strings -/

namespace TextParts

/-- Whether the code points of a text are those of its units, whatever units stand in front of it. -/
def OfUnits (t : TextParts) : Prop :=
  ∀ us, UnitText.points (us ++ t.points.units) = us.points ++ t.points

theorem ofUnits_nil : OfUnits ⟨[], []⟩ := fun us => by
  rw [PointText.units, List.flatMap_nil, List.append_nil, List.append_nil]

/-- A text that is made of its units is told by them. -/
theorem OfUnits.text_eq {t : TextParts} (h : t.OfUnits) : t.text = t.units.points :=
  (h t.escapes).symm

/-- A character that follows a text keeps the units in front of it from being joined with those behind
it. -/
theorem OfUnits.addPoint {t : TextParts} (h : t.OfUnits) (c : Char) : (t.addPoint (.char c)).OfUnits := by
  intro us
  have hunits : (t.addPoint (.char c)).points.units = UnitText.ofChar c ++ t.units := by
    rw [← t.units_text]
    rfl
  rw [hunits, UnitText.points_append_ofChar, ← h.text_eq]
  rfl

end TextParts

/-- What holds of the empty text and stays when an escape or a code point is put in front holds of every
text that is read. -/
theorem readText_induction {halfBefore? : Nat → Option Half} {opening : Nat} {P : TextParts → Prop}
    (hnil : P ⟨[], []⟩) (hescape : ∀ u t, P t → P (t.addEscape u))
    (hpoint : ∀ c n t, P t → P (t.addPoint (((halfBefore? n).map .half).getD (.char c))))
    {cs rest : List Char} {t : TextParts} (h : readText halfBefore? opening cs = .ok (t, rest)) : P t := by
  fun_induction readText halfBefore? opening cs generalizing t rest with
  | case2 => exact (Prod.mk.inj (Except.ok.inj h)).1 ▸ hnil
  | case4 _ _ _ _ _ _ _ _ _ _ hread ih | case8 _ _ _ _ _ _ _ _ hread ih =>
      cases h
      exact hescape _ _ (ih hread)
  | case12 c cs _ _ _ _ _ _ _ _ hread ih =>
      cases h
      exact hpoint c _ _ (ih hread)
  | _ => cases h

/-- A text that is read where no halves stand has the code points of its units. -/
theorem ofUnits_of_readText {opening : Nat} {cs rest : List Char} {t : TextParts}
    (h : readText (fun _ => none) opening cs = .ok (t, rest)) : t.OfUnits := by
  refine readText_induction TextParts.ofUnits_nil (fun _ _ ht => ht) ?_ h
  exact fun c _ _ ht => ht.addPoint c

/-- A text of a string has the code points of its units. -/
theorem readPointText_map_char (source : List Char) (opening : Nat) (cs : List Char) :
    readPointText (source.map .char) opening cs =
      (readUnits opening cs).map fun found => (found.1.points, found.2) := by
  have hnone : PointText.halfBefore? (source.map .char) = fun _ => none :=
    funext (PointText.halfBefore?_map_char source)
  rw [readPointText, readUnits, hnone]
  -- Both readers take the same characters; only what they make of them differs.
  cases hread : readText (fun _ => none) opening cs with
  | error fault => rfl
  | ok found => exact congrArg (fun ps => Except.ok (ps, found.2)) (ofUnits_of_readText hread).text_eq

/-! ## Values with other texts -/

/-- Words and numerals hold no texts. -/
theorem readScalar_map {σ τ : Type} (f : σ → τ) (cs : List Char) :
    (readScalar cs : Except Fault (Value τ × List Char)) =
      (readScalar cs).map fun found => (found.1.mapText f, found.2) := by
  have hwords : (words : List (List Char × Value τ)) =
      words.map fun word => (word.1, word.2.mapText f) := rfl
  have hfound : (words.findSome? fun word : List Char × Value τ =>
        (Text.afterLead? word.1 cs).map (word.2, ·)) =
      (words.findSome? fun word : List Char × Value σ =>
        (Text.afterLead? word.1 cs).map (word.2, ·)).map fun found => (found.1.mapText f, found.2) := by
    rw [hwords, List.findSome?_map, List.map_findSome?]
    congr 1
    funext word
    rw [Function.comp_apply, Function.comp_apply, Option.map_map]
    rfl
  unfold readScalar
  rw [hfound]
  cases words.findSome? fun word : List Char × Value σ =>
    (Text.afterLead? word.1 cs).map (word.2, ·) with
  | some found => rfl
  | none =>
      simp only [Option.map_none]
      cases Numeral.scan? cs with
      | none => rfl
      | some scanned =>
          obtain ⟨n, rest⟩ := scanned
          cases hinteger : n.isInteger with
          | false => simp [Except.map, hinteger, Value.mapText]
          | true => cases hint : n.toInt <;> simp [Except.map, hinteger, hint, Value.mapText]

section Mapped

variable {σ τ : Type} [DecidableEq σ] [DecidableEq τ] {f : σ → τ}
  {readTexts : Nat → List Char → Except Fault (σ × List Char)}
  {readOthers : Nat → List Char → Except Fault (τ × List Char)}

/-- What readers of values, items and entries give is changed as their readers of texts are. -/
structure ReadsMapped (f : σ → τ) (readTexts : Nat → List Char → Except Fault (σ × List Char))
    (readOthers : Nat → List Char → Except Fault (τ × List Char)) (fuel : Nat) : Prop where
  value : ∀ cs, readValue readOthers fuel cs =
    (readValue readTexts fuel cs).map fun found => (found.1.mapText f, found.2)
  items : ∀ cs, readItems readOthers fuel cs =
    (readItems readTexts fuel cs).map fun found => (Value.mapTextItems f found.1, found.2)
  entries : ∀ cs, readEntries readOthers fuel cs =
    (readEntries readTexts fuel cs).map fun found => (Value.mapTextEntries f found.1, found.2)

namespace ReadsMapped

variable {fuel : Nat}

/-- With one more step of fuel the values agree. Injectivity is for the keys: entries of one key
collapse in both readings or in neither. -/
theorem value_succ (hf : Function.Injective f)
    (htexts : ∀ opening cs, readOthers opening cs =
      (readTexts opening cs).map fun found => (f found.1, found.2))
    (hfuel : ReadsMapped f readTexts readOthers fuel) (cs : List Char) :
    readValue readOthers (fuel + 1) cs =
      (readValue readTexts (fuel + 1) cs).map fun found => (found.1.mapText f, found.2) := by
  unfold readValue
  split
  · rw [htexts]
    cases readTexts _ _ <;> rfl
  · split
    · rfl
    · rw [hfuel.items]
      cases readItems readTexts _ _ <;> rfl
  · split
    · rfl
    · rw [hfuel.entries]
      cases readEntries readTexts _ _ with
      | error fault => rfl
      | ok found =>
          exact congrArg (fun es => Except.ok (Value.object es, found.2))
            (Value.collapseEntries_mapTextEntries hf found.1)
  · exact readScalar_map f cs

theorem items_succ (hfuel : ReadsMapped f readTexts readOthers fuel) (cs : List Char) :
    readItems readOthers (fuel + 1) cs =
      (readItems readTexts (fuel + 1) cs).map fun found =>
        (Value.mapTextItems f found.1, found.2) := by
  unfold readItems
  rw [hfuel.value]
  cases readValue readTexts fuel cs with
  | error fault => rfl
  | ok found =>
      simp only [Except.map]
      split
      · rfl
      · rw [hfuel.items]
        cases readItems readTexts _ _ <;> rfl
      · rfl

theorem entries_succ (htexts : ∀ opening cs, readOthers opening cs =
      (readTexts opening cs).map fun found => (f found.1, found.2))
    (hfuel : ReadsMapped f readTexts readOthers fuel) (cs : List Char) :
    readEntries readOthers (fuel + 1) cs =
      (readEntries readTexts (fuel + 1) cs).map fun found =>
        (Value.mapTextEntries f found.1, found.2) := by
  unfold readEntries
  split
  · rw [htexts]
    cases readTexts _ _ with
    | error fault => rfl
    | ok key =>
        simp only [Except.map]
        split
        · rw [hfuel.value]
          cases readValue readTexts _ _ with
          | error fault => rfl
          | ok value =>
              simp only [Except.map]
              split
              · rfl
              · rw [hfuel.entries]
                cases readEntries readTexts _ _ <;> rfl
              · rfl
        · rfl
  · rfl

end ReadsMapped

/-- Readers of values whose readers of texts differ by a change that keeps texts apart differ by the same
change. -/
theorem readsMapped (hf : Function.Injective f) (htexts : ∀ opening cs, readOthers opening cs =
      (readTexts opening cs).map fun found => (f found.1, found.2)) (fuel : Nat) :
    ReadsMapped f readTexts readOthers fuel := by
  induction fuel with
  | zero => exact ⟨fun _ => rfl, fun _ => rfl, fun _ => rfl⟩
  | succ fuel ih => exact ⟨ih.value_succ hf htexts, ih.items_succ, ih.entries_succ htexts⟩

/-- Reading with mapped texts is reading and then mapping the texts of the value. -/
theorem readWith_map (hf : Function.Injective f) (htexts : ∀ opening cs, readOthers opening cs =
      (readTexts opening cs).map fun found => (f found.1, found.2)) (cs : List Char) :
    readWith readOthers cs = (readWith readTexts cs).map (·.mapText f) := by
  have hwhole : readWhole readOthers cs = (readWhole readTexts cs).map (·.mapText f) := by
    unfold readWhole
    split
    · rfl
    · rw [(readsMapped hf htexts _).value]
      cases readValue readTexts _ _ with
      | error fault => rfl
      | ok found =>
          simp only [Except.map]
          split <;> rfl
  unfold readWith
  rw [hwhole]
  cases readWhole readTexts cs with
  | error fault => cases fault <;> rfl
  | ok v => rfl

end Mapped

/-- Reading the code points of a string is reading the string, with the code points of all texts. -/
theorem readPoints_ofString (s : String) :
    readPoints (.ofString s) = (read s.toList).map (·.mapText UnitText.points) := by
  rw [readPoints, PointText.ofString, PointText.map_shown_map_char]
  exact readWith_map UnitText.points_injective (readPointText_map_char s.toList) s.toList

end Json
end VideoBundle
