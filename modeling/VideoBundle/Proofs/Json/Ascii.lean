import VideoBundle.Proofs.Json.RoundTrip

/-!
# Written values are ASCII on one line

Whatever units its texts hold, a value is written with printable ASCII characters only.  So what is
written for it has no line feed and can stand in code of any kind.

Main results:

- `isAscii_write`: a written value holds printable ASCII only.
- `newline_not_mem_write`: a written value stands on one line.
-/

namespace VideoBundle

/-- Whether a character is printable ASCII. -/
def IsPrintableAscii (c : Char) : Prop := 0x20 ≤ c.toNat ∧ c.toNat ≤ 0x7E

instance (c : Char) : Decidable (IsPrintableAscii c) :=
  inferInstanceAs (Decidable (_ ∧ _))

namespace Json

/-- Whether a text holds printable ASCII only. -/
def IsAscii (cs : List Char) : Prop := ∀ c ∈ cs, IsPrintableAscii c

instance (cs : List Char) : Decidable (IsAscii cs) :=
  List.decidableBAll IsPrintableAscii cs

theorem isAscii_append_iff {cs ds : List Char} : IsAscii (cs ++ ds) ↔ IsAscii cs ∧ IsAscii ds :=
  List.forall_mem_append

theorem isAscii_cons_iff {c : Char} {cs : List Char} :
    IsAscii (c :: cs) ↔ IsPrintableAscii c ∧ IsAscii cs :=
  List.forall_mem_cons

theorem isAscii_nil : IsAscii [] := List.forall_mem_nil _

/-- A text is written in ASCII: units beyond it are escaped. -/
theorem isAscii_writeUnits (us : UnitText) : IsAscii (writeUnits us) := writeUnits_ascii us

/-- A numeral is written in ASCII. -/
theorem isAscii_text {n : Numeral} (h : n.WellFormed) : IsAscii n.text := by
  intro c hc
  rcases h.of_mem_text hc with hdigit | hother
  · simp only [isAsciiDigit, Bool.and_eq_true, decide_eq_true_eq] at hdigit
    have hlow : '0'.toNat ≤ c.toNat := hdigit.1
    have hhigh : c.toNat ≤ '9'.toNat := hdigit.2
    have hzero : '0'.toNat = 0x30 := rfl
    have hnine : '9'.toNat = 0x39 := rfl
    exact ⟨by omega, by omega⟩
  · have hall : IsAscii ['-', '+', '.', 'e'] := by decide
    exact hall c hother

theorem isAscii_writeNumber (n : Number) : IsAscii (writeNumber n) := by
  match n with
  | .int i =>
      obtain ⟨m, hm, _, htext, _⟩ := exists_text_integerDigits i
      rw [writeNumber_int, ← htext]
      exact isAscii_text hm
  | .float .nan =>
      rw [writeNumber_nan]
      decide
  | .float (.infinite negative) =>
      rw [writeNumber_infinite]
      cases negative <;> decide
  | .float (.finite negative m) =>
      obtain ⟨n, hn, _, htext, _⟩ := exists_text_numeral .standard negative m
      rw [writeNumber_finite, ← htext]
      exact isAscii_text hn

mutual

/-- A written value holds printable ASCII only. -/
theorem isAscii_write (v : Value UnitText) : IsAscii (write v) := by
  cases v with
  | null => simp [write, IsAscii, IsPrintableAscii]
  | bool b => cases b <;> simp [write, IsAscii, IsPrintableAscii]
  | number n => exact isAscii_writeNumber n
  | text us => exact isAscii_writeUnits us
  | list items =>
      rw [write, isAscii_cons_iff, isAscii_append_iff]
      exact ⟨by decide, isAscii_writeItems items, by decide⟩
  | object entries =>
      rw [write, isAscii_cons_iff, isAscii_append_iff]
      exact ⟨by decide, isAscii_writeEntries entries, by decide⟩

theorem isAscii_writeItems (vs : List (Value UnitText)) : IsAscii (writeItems vs) := by
  match vs with
  | [] => exact isAscii_nil
  | [v] => exact isAscii_write v
  | v :: w :: vs =>
      rw [writeItems_cons, isAscii_append_iff, isAscii_cons_iff, isAscii_cons_iff]
      exact ⟨isAscii_write v, by decide, by decide, isAscii_writeItems (w :: vs)⟩

theorem isAscii_writeEntries (es : List (UnitText × Value UnitText)) : IsAscii (writeEntries es) := by
  match es with
  | [] => exact isAscii_nil
  | [(k, v)] =>
      rw [writeEntries_singleton, isAscii_append_iff, isAscii_cons_iff, isAscii_cons_iff]
      exact ⟨isAscii_writeUnits k, by decide, by decide, isAscii_write v⟩
  | (k, v) :: e :: es =>
      rw [writeEntries_cons, isAscii_append_iff, isAscii_cons_iff, isAscii_cons_iff,
        isAscii_append_iff, isAscii_cons_iff, isAscii_cons_iff]
      exact ⟨isAscii_writeUnits k, by decide, by decide, isAscii_write v, by decide, by decide,
        isAscii_writeEntries (e :: es)⟩

end

/-- A written value stands on one line. -/
theorem newline_not_mem_write (v : Value UnitText) : '\n' ∉ write v := fun hmem =>
  absurd (isAscii_write v _ hmem) (by decide)

end Json
end VideoBundle
