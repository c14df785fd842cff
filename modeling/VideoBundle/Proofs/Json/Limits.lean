import VideoBundle.Proofs.Json.RoundTrip
import VideoBundle.Proofs.Outcomes

/-!
# What was read can be written and read again

An integer of too many digits is refused by the reader, and of several entries under one key it keeps
one.  So every value that was read can be restored from the text that is written for it.

Main results:

- `readsRestorable`: what the readers of values, items and entries give.
- `read_write_of_read`: a value that was read is read again from its text.
- `isWritable_of_decode`: a value that was decoded can be written.
-/

namespace VideoBundle

namespace Json

variable {τ : Type}

/-- A scalar that was read is restorable: its number was within the limit. -/
theorem restorable_of_readScalar {cs rest : List Char} {v : Value τ}
    (h : readScalar cs = .ok (v, rest)) : Restorable v := by
  have hwords : ∀ word ∈ (words : List (List Char × Value τ)), Restorable word.2 := by
    simp only [words, List.forall_mem_cons, restorable_number_iff]
    exact ⟨⟨rfl, trivial⟩, ⟨rfl, trivial⟩, ⟨rfl, trivial⟩, rfl, rfl, rfl, List.forall_mem_nil _⟩
  unfold readScalar at h
  split at h
  · rename_i found hfound
    cases h
    obtain ⟨word, hword, hlead⟩ := List.exists_of_findSome?_eq_some hfound
    obtain ⟨_, _, heq⟩ := Option.map_eq_some_iff.1 hlead
    cases heq
    exact hwords word hword
  · split at h
    · cases h
    · rename_i n _ hscan
      split at h
      · cases hint : n.toInt with
        | error e => simp [hint] at h
        | ok i =>
            rw [hint] at h
            cases h
            exact restorable_number_iff.2 (isWritable_of_toInt (isDigitRow_of_scan? hscan) hint)
      · cases h
        exact restorable_number_iff.2 rfl

section Readers

variable [DecidableEq τ] {readTexts : Nat → List Char → Except Fault (τ × List Char)}

/-- What the readers give with some fuel can be restored, however texts are read. -/
structure ReadsRestorable (readTexts : Nat → List Char → Except Fault (τ × List Char)) (fuel : Nat) :
    Prop where
  value : ∀ cs v rest, readValue readTexts fuel cs = .ok (v, rest) → Restorable v
  items : ∀ cs vs rest, readItems readTexts fuel cs = .ok (vs, rest) → ∀ v ∈ vs, Restorable v
  entries : ∀ cs es rest, readEntries readTexts fuel cs = .ok (es, rest) → ∀ e ∈ es, Restorable e.2

namespace ReadsRestorable

variable {fuel : Nat} {cs rest : List Char}

/-- With one more step of fuel a value that was read is restorable. -/
theorem value_succ (hfuel : ReadsRestorable readTexts fuel) {v : Value τ}
    (h : readValue readTexts (fuel + 1) cs = .ok (v, rest)) : Restorable v := by
  unfold readValue at h
  split at h
  · split at h
    · cases h
      exact ⟨rfl, trivial⟩
    · cases h
  · split at h
    · cases h
      exact restorable_list_iff.2 (List.forall_mem_nil _)
    · split at h
      · rename_i hread
        cases h
        exact restorable_list_iff.2 (hfuel.items _ _ _ hread)
      · cases h
  · split at h
    · cases h
      exact restorable_object_iff.2 ⟨List.nodup_nil, List.forall_mem_nil _⟩
    · split at h
      · rename_i hread
        cases h
        exact restorable_object_iff.2 ⟨nodup_keys_collapseEntries _, fun e he =>
          hfuel.entries _ _ _ hread e (mem_of_mem_collapseEntries he)⟩
      · cases h
  · exact restorable_of_readScalar h

theorem items_succ (hfuel : ReadsRestorable readTexts fuel) {vs : List (Value τ)}
    (h : readItems readTexts (fuel + 1) cs = .ok (vs, rest)) : ∀ v ∈ vs, Restorable v := by
  unfold readItems at h
  split at h
  · cases h
  · rename_i hread
    have hfirst := hfuel.value _ _ _ hread
    split at h
    · cases h
      exact List.forall_mem_singleton.2 hfirst
    · split at h
      · rename_i hmore
        cases h
        exact List.forall_mem_cons.2 ⟨hfirst, hfuel.items _ _ _ hmore⟩
      · cases h
    · cases h

theorem entries_succ (hfuel : ReadsRestorable readTexts fuel) {es : List (τ × Value τ)}
    (h : readEntries readTexts (fuel + 1) cs = .ok (es, rest)) : ∀ e ∈ es, Restorable e.2 := by
  unfold readEntries at h
  split at h
  · split at h
    · cases h
    · split at h
      · split at h
        · cases h
        · rename_i hread
          have hfirst := hfuel.value _ _ _ hread
          split at h
          · cases h
            exact List.forall_mem_singleton.2 hfirst
          · split at h
            · rename_i hmore
              cases h
              exact List.forall_mem_cons.2 ⟨hfirst, hfuel.entries _ _ _ hmore⟩
            · cases h
          · cases h
      · cases h
  · cases h

end ReadsRestorable

/-- What is read with any fuel can be restored. -/
theorem readsRestorable (fuel : Nat) : ReadsRestorable readTexts fuel := by
  induction fuel with
  | zero => exact ⟨by simp [readValue], by simp [readItems], by simp [readEntries]⟩
  | succ fuel ih =>
      exact ⟨fun _ _ _ => ih.value_succ, fun _ _ _ => ih.items_succ, fun _ _ _ => ih.entries_succ⟩

/-- A value that was read can be restored. -/
theorem restorable_of_readWith {cs : List Char} {v : Value τ} (h : readWith readTexts cs = .ok v) :
    Restorable v := by
  have hwhole := readWith_eq_ok_iff.1 h
  unfold readWhole at hwhole
  split at hwhole
  · cases hwhole
  · split at hwhole
    · cases hwhole
    · rename_i hvalue
      split at hwhole
      · cases hwhole
        exact (readsRestorable _).value _ _ _ hvalue
      · cases hwhole

end Readers

/-- A value that was read is read again from its text. -/
theorem read_write_of_read {cs : List Char} {v : Value UnitText} (h : read cs = .ok v) :
    read (write v) = .ok v :=
  read_write (restorable_of_readWith h)

/-- A value that was decoded can be written. -/
theorem isWritable_of_decode {text : String} {v : Value String} (h : decode text = .ok v) :
    v.isWritable = true := by
  obtain ⟨w, hread, rfl⟩ := map_eq_ok_iff.1 h
  rw [Value.isWritable_mapText]
  exact (restorable_of_readWith hread).writable

end Json
end VideoBundle
