import VideoBundle.Proofs.Json.Texts
import VideoBundle.Proofs.Number.Numerals
import VideoBundle.Proofs.Value

/-!
# Written values are read back

A value that is written as a JSON text is read back as that value, if its integers have few enough
digits to be written and no object has two entries under one key.  Its texts may hold any units.

Main results:

- `readValue_write`: a written value is read back, whatever follows that does not go on with a numeral.
- `read_write`: the text of a value is read back as a whole.
- `decode_encode`: the text of a value of strings decodes to the value.
- `writeUnits_append_inj`, `write_append_inj`: what is written shows where it ends.
-/

namespace VideoBundle

theorem UnitText.ofString_injective : Function.Injective ofString := by
  intro s t h
  rw [← toText_ofString s, h, toText_ofString]

namespace Json

/-! ## Values that can be restored -/

/-- Whether a value can be written and read back: its integers have few enough digits, and no object in
it has two entries under one key. -/
structure Restorable {τ : Type} (v : Value τ) : Prop where
  writable : v.isWritable = true
  distinctKeys : v.HasDistinctKeys

section Restorable

variable {τ : Type}

/-- A number is restorable exactly if it can be written. -/
theorem restorable_number_iff {n : Number} :
    Restorable (.number n : Value τ) ↔ n.isWritable = true :=
  ⟨fun h => h.writable, fun h => ⟨h, trivial⟩⟩

/-- A list is restorable exactly if its items are. -/
theorem restorable_list_iff {items : List (Value τ)} :
    Restorable (.list items) ↔ ∀ v ∈ items, Restorable v := by
  constructor
  · intro h v hv
    exact ⟨Value.isWritable_list_iff.1 h.writable v hv,
      Value.hasDistinctKeys_list_iff.1 h.distinctKeys v hv⟩
  · intro h
    exact ⟨Value.isWritable_list_iff.2 fun v hv => (h v hv).writable,
      Value.hasDistinctKeys_list_iff.2 fun v hv => (h v hv).distinctKeys⟩

/-- An object is restorable exactly if its keys are distinct and its values restorable. -/
theorem restorable_object_iff {entries : List (τ × Value τ)} :
    Restorable (.object entries) ↔
      (entries.map Prod.fst).Nodup ∧ ∀ e ∈ entries, Restorable e.2 := by
  constructor
  · intro h
    have hkeys := Value.hasDistinctKeys_object_iff.1 h.distinctKeys
    exact ⟨hkeys.1, fun e he => ⟨Value.isWritable_object_iff.1 h.writable e he, hkeys.2 e he⟩⟩
  · rintro ⟨hkeys, h⟩
    exact ⟨Value.isWritable_object_iff.2 fun e he => (h e he).writable,
      Value.hasDistinctKeys_object_iff.2 ⟨hkeys, fun e he => (h e he).distinctKeys⟩⟩

end Restorable

/-- A value of strings can be restored when it is writable and its keys are distinct. -/
theorem restorable_ofString {v : Value String} (hwritable : v.isWritable = true)
    (hkeys : v.HasDistinctKeys) : Restorable (v.mapText UnitText.ofString) where
  writable := by rw [Value.isWritable_mapText, hwritable]
  distinctKeys := hkeys.mapText UnitText.ofString_injective

/-! ## Starts of values -/

/-- Whether a number can start with a character. -/
def isNumberStart (c : Char) : Bool :=
  isAsciiDigit c || c = '-' || c = 'N' || c = 'I'

/-- Whether a written value can start with a character. -/
def isValueStart (c : Char) : Bool :=
  isNumberStart c || c = '"' || c = '[' || c = '{' || c = 'n' || c = 't' || c = 'f'

/-- A character with some property is none without it. -/
theorem ne_of_eq_true {p : Char → Bool} {c d : Char} (hc : p c = true) (hd : p d = false) : c ≠ d := by
  rintro rfl
  simp [hc] at hd

/-- A written value starts with a character that can start it. -/
def StartsValue (cs : List Char) : Prop := ∃ c tail, cs = c :: tail ∧ isValueStart c = true

theorem skipSpace_space (cs : List Char) : skipSpace (' ' :: cs) = skipSpace cs := by
  simp [skipSpace, isSpace]

/-- What starts a value does so in front of any rest. -/
theorem StartsValue.append {cs : List Char} (h : StartsValue cs) (rest : List Char) :
    StartsValue (cs ++ rest) := by
  obtain ⟨c, tail, rfl, hc⟩ := h
  exact ⟨c, tail ++ rest, rfl, hc⟩

/-- No space stands in front of a value. -/
theorem StartsValue.skipSpace {cs : List Char} (h : StartsValue cs) : skipSpace cs = cs := by
  obtain ⟨c, tail, rfl, hc⟩ := h
  have hspace : isSpace c = false := by
    simp [isSpace, ne_of_eq_true hc (show isValueStart ' ' = false by decide),
      ne_of_eq_true hc (show isValueStart '\t' = false by decide),
      ne_of_eq_true hc (show isValueStart '\n' = false by decide),
      ne_of_eq_true hc (show isValueStart '\r' = false by decide)]
  simp [Json.skipSpace, hspace]

/-- A character that cannot belong to a numeral ends it. -/
theorem endsNumeral_cons {c : Char} (h : isAsciiDigit c = false ∧ c ≠ '.' ∧ c ≠ 'e' ∧ c ≠ 'E')
    (rest : List Char) : EndsNumeral (c :: rest) := by
  rintro _ ⟨⟩
  exact h

/-! ## Scalars -/

/-- The words as characters. -/
theorem words_eq {τ : Type} : (words : List (List Char × Value τ)) =
    [(['n', 'u', 'l', 'l'], .null), (['t', 'r', 'u', 'e'], .bool true),
     (['f', 'a', 'l', 's', 'e'], .bool false), (['N', 'a', 'N'], .number (.float .nan)),
     (['I', 'n', 'f', 'i', 'n', 'i', 't', 'y'], .number (.float (.infinite false))),
     (['-', 'I', 'n', 'f', 'i', 'n', 'i', 't', 'y'], .number (.float (.infinite true)))] := by
  simp [words]

/-- A numeral is no word and is read from its parts. -/
theorem readScalar_text {τ : Type} {n : Numeral} (h : n.WellFormed) {rest : List Char}
    (hrest : EndsNumeral rest) :
    (readScalar (n.text ++ rest) : Except Fault (Value τ × List Char)) =
      if n.isInteger then
        match n.toInt with
        | .ok i => .ok (.number (.int i), rest)
        | .error e => .error (.tooManyDigits e)
      else .ok (.number (.float n.toBinary64), rest) := by
  obtain ⟨d, ds, hd, hstart⟩ := h.exists_text_append_eq rest
  have hwords : words.findSome? (fun word : List Char × Value τ =>
      (Text.afterLead? word.1 (n.text ++ rest)).map (word.2, ·)) = none := by
    have hn := (ne_of_eq_true hd (show isAsciiDigit 'n' = false by decide)).symm
    have ht := (ne_of_eq_true hd (show isAsciiDigit 't' = false by decide)).symm
    have hf := (ne_of_eq_true hd (show isAsciiDigit 'f' = false by decide)).symm
    have hN := (ne_of_eq_true hd (show isAsciiDigit 'N' = false by decide)).symm
    have hI := (ne_of_eq_true hd (show isAsciiDigit 'I' = false by decide)).symm
    have hminus := (ne_of_eq_true hd (show isAsciiDigit '-' = false by decide)).symm
    rcases hstart with hstart | hstart <;>
      simp [words_eq, hstart, Text.afterLead?, hn, ht, hf, hN, hI, hminus]
  have hscan := Numeral.scan?_text h hrest
  cases hinteger : n.isInteger with
  | false => simp [readScalar, hwords, hscan, hinteger]
  | true => cases hint : n.toInt <;> simp [readScalar, hwords, hscan, hinteger, hint]

theorem writeNumber_int (i : Int) : writeNumber (.int i) = integerDigits i := rfl

theorem writeNumber_nan : writeNumber (.float .nan) = ['N', 'a', 'N'] :=
  String.toList_ofList

theorem writeNumber_infinite (negative : Bool) :
    writeNumber (.float (.infinite negative)) =
      (if negative then ['-'] else []) ++ ['I', 'n', 'f', 'i', 'n', 'i', 't', 'y'] := by
  cases negative <;> exact String.toList_ofList

theorem writeNumber_finite (negative : Bool) (m : Magnitude) :
    writeNumber (.float (.finite negative m)) =
      (if negative then ['-'] else []) ++ m.numeral .standard := rfl

/-- A written number is read back. -/
theorem readScalar_writeNumber {τ : Type} {n : Number} (hn : n.isWritable = true) {rest : List Char}
    (hrest : EndsNumeral rest) :
    (readScalar (writeNumber n ++ rest) : Except Fault (Value τ × List Char)) =
      .ok (.number n, rest) := by
  match n with
  | .int i =>
      obtain ⟨m, hm, hinteger, htext, hvalue⟩ := exists_text_integerDigits i
      rw [if_pos hn] at hvalue
      rw [writeNumber_int, ← htext, readScalar_text hm hrest, if_pos hinteger, hvalue]
  | .float .nan => simp [writeNumber_nan, readScalar, words_eq, Text.afterLead?]
  | .float (.infinite negative) =>
      cases negative <;> simp [writeNumber_infinite, readScalar, words_eq, Text.afterLead?]
  | .float (.finite negative m) =>
      obtain ⟨n, hn, hinteger, htext, hvalue⟩ := exists_text_numeral .standard negative m
      rw [writeNumber_finite, ← htext, readScalar_text hn hrest, hinteger, hvalue]
      rfl

/-- A written number begins like a number. -/
theorem startsNumber_writeNumber (n : Number) :
    ∃ c tail, writeNumber n = c :: tail ∧ isNumberStart c = true := by
  have htext : ∀ m : Numeral, m.WellFormed → ∃ c tail, m.text = c :: tail ∧ isNumberStart c = true := by
    intro m hm
    obtain ⟨d, ds, hd, hstart⟩ := hm.exists_text_append_eq []
    rw [List.append_nil] at hstart
    rcases hstart with hstart | hstart
    · exact ⟨d, ds, hstart, by simp [isNumberStart, hd]⟩
    · exact ⟨'-', d :: ds, hstart, by decide⟩
  match n with
  | .int i =>
      obtain ⟨m, hm, _, heq, _⟩ := exists_text_integerDigits i
      rw [writeNumber_int, ← heq]
      exact htext m hm
  | .float .nan => exact ⟨'N', _, rfl, by decide⟩
  | .float (.infinite false) => exact ⟨'I', _, rfl, by decide⟩
  | .float (.infinite true) => exact ⟨'-', _, rfl, by decide⟩
  | .float (.finite negative m) =>
      obtain ⟨n, hn, _, heq, _⟩ := exists_text_numeral .standard negative m
      rw [writeNumber_finite, ← heq]
      exact htext n hn

/-- A written value begins like a value. -/
theorem startsValue_write (v : Value UnitText) : StartsValue (write v) := by
  cases v with
  | null => exact ⟨'n', ['u', 'l', 'l'], by simp [write], by decide⟩
  | bool b =>
      cases b with
      | true => exact ⟨'t', ['r', 'u', 'e'], by simp [write], by decide⟩
      | false => exact ⟨'f', ['a', 'l', 's', 'e'], by simp [write], by decide⟩
  | number n =>
      obtain ⟨c, tail, heq, hc⟩ := startsNumber_writeNumber n
      exact ⟨c, tail, by rw [write, heq], by simp [isValueStart, hc]⟩
  | text us => exact ⟨'"', _, by rw [write, writeUnits], by decide⟩
  | list items => exact ⟨'[', _, by rw [write], by decide⟩
  | object entries => exact ⟨'{', _, by rw [write], by decide⟩

/-! ## One step of reading -/

section Steps

variable {fuel : Nat} {cs more rest : List Char}

/-- What begins with no quote, bracket or brace is read as a scalar. -/
theorem readValue_scalar (h : ∃ c tail, cs = c :: tail ∧ c ≠ '"' ∧ c ≠ '[' ∧ c ≠ '{') :
    readValue readUnits (fuel + 1) cs = readScalar cs := by
  obtain ⟨c, tail, rfl, hquote, hbracket, hbrace⟩ := h
  refine readValue.eq_5 _ _ _ ?_ ?_ ?_ <;> rintro _ ⟨⟩ <;> contradiction

/-- A written text is read back, whatever follows. -/
theorem readValue_text (us : UnitText) (rest : List Char) :
    readValue readUnits (fuel + 1) (writeUnits us ++ rest) = .ok (.text us, rest) := by
  rw [writeUnits, List.cons_append, readValue.eq_2, List.append_assoc, List.singleton_append,
    readUnits_writeUnits]

/-- A list is read if its items are. -/
theorem readValue_list {items : List (Value UnitText)} (hstart : StartsValue cs)
    (h : readItems readUnits fuel cs = .ok (items, rest)) :
    readValue readUnits (fuel + 1) ('[' :: cs) = .ok (.list items, rest) := by
  obtain ⟨c, tail, rfl, hc⟩ := hstart
  have hclose := ne_of_eq_true hc (show isValueStart ']' = false by decide)
  rw [readValue.eq_3, StartsValue.skipSpace ⟨c, tail, rfl, hc⟩]
  split
  · rename_i heq
    exact absurd (List.cons.inj heq).1 hclose
  · rw [h]

/-- A bracket behind an item closes the list. -/
theorem readItems_last {v : Value UnitText} (h : readValue readUnits fuel cs = .ok (v, ']' :: rest)) :
    readItems readUnits (fuel + 1) cs = .ok ([v], rest) := by
  rw [readItems.eq_2, h]
  rfl

/-- A comma behind an item continues the list. -/
theorem readItems_more {v : Value UnitText} {vs : List (Value UnitText)}
    (h : readValue readUnits fuel cs = .ok (v, ',' :: ' ' :: more)) (hstart : StartsValue more)
    (hmore : readItems readUnits fuel more = .ok (vs, rest)) :
    readItems readUnits (fuel + 1) cs = .ok (v :: vs, rest) := by
  have hcomma : skipSpace (',' :: ' ' :: more) = ',' :: ' ' :: more := rfl
  rw [readItems.eq_2]
  simp only [h, hcomma, skipSpace_space, hstart.skipSpace, hmore]

/-- An object is read if its entries are, and its distinct keys keep them all. -/
theorem readValue_object {entries : List (UnitText × Value UnitText)}
    (hkeys : (entries.map Prod.fst).Nodup) (h : readEntries readUnits fuel ('"' :: cs) = .ok (entries, rest)) :
    readValue readUnits (fuel + 1) ('{' :: '"' :: cs) = .ok (.object entries, rest) := by
  have hquote : skipSpace ('"' :: cs) = '"' :: cs := rfl
  rw [readValue.eq_4, hquote]
  split
  · rename_i heq
    cases heq
  · rw [h]
    simp only [collapseEntries_of_nodup hkeys]

/-- A brace behind an entry closes the object. -/
theorem readEntries_last {us : UnitText} {v : Value UnitText} (hstart : StartsValue cs)
    (h : readValue readUnits fuel cs = .ok (v, '}' :: rest)) :
    readEntries readUnits (fuel + 1) (writeUnits us ++ ':' :: ' ' :: cs) = .ok ([(us, v)], rest) := by
  have hcolon : skipSpace (':' :: ' ' :: cs) = ':' :: ' ' :: cs := rfl
  have hbrace : skipSpace ('}' :: rest) = '}' :: rest := rfl
  rw [writeUnits, List.cons_append, readEntries.eq_2, List.append_assoc, List.singleton_append,
    readUnits_writeUnits]
  simp only [hcolon, skipSpace_space, hstart.skipSpace, h, hbrace]

/-- A comma behind an entry continues the object. -/
theorem readEntries_more {us : UnitText} {v : Value UnitText}
    {entries : List (UnitText × Value UnitText)} (hstart : StartsValue cs)
    (h : readValue readUnits fuel cs = .ok (v, ',' :: ' ' :: '"' :: more))
    (hmore : readEntries readUnits fuel ('"' :: more) = .ok (entries, rest)) :
    readEntries readUnits (fuel + 1) (writeUnits us ++ ':' :: ' ' :: cs) = .ok ((us, v) :: entries, rest) := by
  have hcolon : skipSpace (':' :: ' ' :: cs) = ':' :: ' ' :: cs := rfl
  have hcomma : skipSpace (',' :: ' ' :: '"' :: more) = ',' :: ' ' :: '"' :: more := rfl
  have hquote : skipSpace ('"' :: more) = '"' :: more := rfl
  rw [writeUnits, List.cons_append, readEntries.eq_2, List.append_assoc, List.singleton_append,
    readUnits_writeUnits]
  simp only [hcolon, skipSpace_space, hstart.skipSpace, h, hcomma, hquote, hmore]

end Steps

/-! ## Whole values -/

theorem writeItems_cons (v w : Value UnitText) (vs : List (Value UnitText)) :
    writeItems (v :: w :: vs) = write v ++ ',' :: ' ' :: writeItems (w :: vs) := by
  simp [writeItems]

theorem writeEntries_singleton (k : UnitText) (v : Value UnitText) :
    writeEntries [(k, v)] = writeUnits k ++ ':' :: ' ' :: write v := by
  simp [writeEntries]

theorem writeEntries_cons (k : UnitText) (v : Value UnitText) (e : UnitText × Value UnitText)
    (es : List (UnitText × Value UnitText)) :
    writeEntries ((k, v) :: e :: es) =
      writeUnits k ++ ':' :: ' ' :: (write v ++ ',' :: ' ' :: writeEntries (e :: es)) := by
  simp [writeEntries]

theorem startsValue_writeItems (v : Value UnitText) (vs : List (Value UnitText)) :
    StartsValue (writeItems (v :: vs)) := by
  cases vs with
  | nil => exact startsValue_write v
  | cons w vs => exact writeItems_cons v w vs ▸ (startsValue_write v).append _

/-- Written entries begin with the quote of a key. -/
theorem exists_writeEntries_eq (e : UnitText × Value UnitText) (es : List (UnitText × Value UnitText)) :
    ∃ tail, writeEntries (e :: es) = '"' :: tail := by
  obtain ⟨k, v⟩ := e
  cases es with
  | nil => exact ⟨_, by rw [writeEntries_singleton, writeUnits]; rfl⟩
  | cons e es => exact ⟨_, by rw [writeEntries_cons, writeUnits]; rfl⟩

/-- What may stand behind a written value ends a numeral. -/
theorem endsNumeral_close (rest : List Char) :
    EndsNumeral (',' :: rest) ∧ EndsNumeral (']' :: rest) ∧ EndsNumeral ('}' :: rest) :=
  ⟨endsNumeral_cons (by decide) rest, endsNumeral_cons (by decide) rest,
    endsNumeral_cons (by decide) rest⟩

mutual

/-- A written value is read back, whatever follows that does not go on with a numeral. -/
theorem readValue_write (v : Value UnitText) (h : Restorable v) {fuel : Nat}
    (hfuel : 2 * (write v).length ≤ fuel) {rest : List Char} (hrest : EndsNumeral rest) :
    readValue readUnits fuel (write v ++ rest) = .ok (v, rest) := by
  obtain ⟨c, tail, heq, hc⟩ := startsValue_write v
  obtain ⟨fuel, rfl⟩ : ∃ n, fuel = n + 1 :=
    ⟨fuel - 1, by rw [heq, List.length_cons] at hfuel; omega⟩
  cases v with
  | null => rfl
  | bool b => cases b <;> rfl
  | number n =>
      obtain ⟨c, tail, heq, hc⟩ := startsNumber_writeNumber n
      have hne : ∀ d, isNumberStart d = false → c ≠ d := fun d => ne_of_eq_true hc
      have hscalar := @readScalar_writeNumber UnitText n (restorable_number_iff.1 h) rest hrest
      rw [heq] at hscalar
      rw [write, heq]
      exact (readValue_scalar ⟨c, tail ++ rest, rfl, hne '"' (by decide), hne '[' (by decide),
        hne '{' (by decide)⟩).trans hscalar
  | text us => exact readValue_text us rest
  | list items =>
      cases items with
      | nil => rfl
      | cons v vs =>
          rw [write, List.length_cons, List.length_append] at hfuel
          rw [write, List.cons_append, List.append_assoc]
          refine readValue_list ((startsValue_writeItems _ _).append _) ?_
          exact readItems_write (v :: vs) (List.cons_ne_nil v vs) (restorable_list_iff.1 h)
            (by omega) rest
  | object entries =>
      cases entries with
      | nil => rfl
      | cons e es =>
          obtain ⟨hkeys, hentries⟩ := restorable_object_iff.1 h
          obtain ⟨tail, hquote⟩ := exists_writeEntries_eq e es
          rw [write, List.length_cons, List.length_append] at hfuel
          rw [write, List.cons_append, List.append_assoc]
          have hread := readEntries_write (e :: es) (List.cons_ne_nil e es) hentries
            (show 2 * _ + 1 ≤ fuel by omega) rest
          rw [hquote] at hread ⊢
          exact readValue_object hkeys hread

/-- Written items are read back up to the bracket behind them. -/
theorem readItems_write (vs : List (Value UnitText)) (hne : vs ≠ []) (h : ∀ v ∈ vs, Restorable v)
    {fuel : Nat} (hfuel : 2 * (writeItems vs).length + 1 ≤ fuel) (rest : List Char) :
    readItems readUnits fuel (writeItems vs ++ ']' :: rest) = .ok (vs, rest) := by
  obtain ⟨fuel, rfl⟩ : ∃ n, fuel = n + 1 := ⟨fuel - 1, by omega⟩
  cases vs with
  | nil => exact absurd rfl hne
  | cons v vs =>
      rw [List.forall_mem_cons] at h
      cases vs with
      | nil =>
          have hlength : 2 * (write v).length ≤ fuel := by simpa [writeItems] using hfuel
          exact readItems_last (readValue_write v h.1 hlength (endsNumeral_close rest).2.1)
      | cons w vs =>
          rw [writeItems_cons] at hfuel ⊢
          rw [List.length_append, List.length_cons, List.length_cons] at hfuel
          rw [List.append_assoc]
          refine readItems_more (readValue_write v h.1 (by omega) (endsNumeral_close _).1)
            ((startsValue_writeItems _ _).append _) ?_
          exact readItems_write (w :: vs) (List.cons_ne_nil w vs) h.2 (by omega) rest

/-- Written entries are read back up to the brace behind them. -/
theorem readEntries_write (es : List (UnitText × Value UnitText)) (hne : es ≠ [])
    (h : ∀ e ∈ es, Restorable e.2) {fuel : Nat}
    (hfuel : 2 * (writeEntries es).length + 1 ≤ fuel) (rest : List Char) :
    readEntries readUnits fuel (writeEntries es ++ '}' :: rest) = .ok (es, rest) := by
  obtain ⟨fuel, rfl⟩ : ∃ n, fuel = n + 1 := ⟨fuel - 1, by omega⟩
  cases es with
  | nil => exact absurd rfl hne
  | cons e es =>
      obtain ⟨k, v⟩ := e
      rw [List.forall_mem_cons] at h
      cases es with
      | nil =>
          rw [writeEntries_singleton] at hfuel ⊢
          rw [List.length_append, List.length_cons, List.length_cons] at hfuel
          rw [List.append_assoc]
          exact readEntries_last ((startsValue_write _).append _)
            (readValue_write v h.1 (by omega) (endsNumeral_close rest).2.2)
      | cons e es =>
          obtain ⟨tail, hquote⟩ := exists_writeEntries_eq e es
          rw [writeEntries_cons] at hfuel ⊢
          simp only [List.length_append, List.length_cons] at hfuel
          have hmore := readEntries_write (e :: es) (List.cons_ne_nil e es) h.2
            (show 2 * _ + 1 ≤ fuel by omega) rest
          rw [hquote, List.cons_append] at hmore
          rw [hquote]
          simp only [List.append_assoc, List.cons_append]
          exact readEntries_more ((startsValue_write _).append _)
            (readValue_write v h.1 (by omega) (endsNumeral_close _).1) hmore

end

/-- The text of a value is read back as a whole. -/
theorem read_write {v : Value UnitText} (h : Restorable v) : read (write v) = .ok v := by
  have hstart := startsValue_write v
  have ⟨c, tail, heq, hc⟩ := hstart
  have hread : readValue readUnits (fuelFor (write v)) (write v ++ []) = .ok (v, []) :=
    readValue_write v h (by rw [fuelFor]; omega) (by simp [EndsNumeral])
  rw [List.append_nil] at hread
  have hmark := ne_of_eq_true hc (show isValueStart '\uFEFF' = false by decide)
  rw [read_eq_ok_iff, readWhole.eq_def]
  split
  · rename_i hmarked
    rw [heq] at hmarked
    exact absurd (List.cons.inj hmarked).1 hmark
  · rw [hstart.skipSpace, hread]
    rfl

/-- The text of a value of strings decodes to the value. -/
theorem decode_encode (v : Value String) (hwritable : v.isWritable = true)
    (hkeys : v.HasDistinctKeys) : decode (encode v) = .ok v := by
  rw [decode, encode, String.toList_ofList, read_write (restorable_ofString hwritable hkeys),
    Except.map, Value.mapText_mapText, Value.mapText_eq_self _ UnitText.toText_ofString]

/-! ## Where a text ends -/

/-- A text in quotes can be told from what follows it. -/
theorem writeUnits_append_inj {us vs : UnitText} {cs ds : List Char}
    (h : writeUnits us ++ cs = writeUnits vs ++ ds) : us = vs ∧ cs = ds := by
  have hread := @readValue_text 0 us cs
  rw [h, readValue_text] at hread
  simp only [Except.ok.injEq, Prod.mk.injEq, Value.text.injEq] at hread
  exact ⟨hread.1.symm, hread.2.symm⟩

/-- A written value can be told from what follows it, if that does not go on with a numeral. -/
theorem write_append_inj {v w : Value UnitText} (hv : Restorable v) (hw : Restorable w)
    {cs ds : List Char} (hcs : EndsNumeral cs) (hds : EndsNumeral ds)
    (h : write v ++ cs = write w ++ ds) : v = w ∧ cs = ds := by
  have hfirst := readValue_write v hv (Nat.le_add_right _ (2 * (write w).length)) hcs
  have hsecond := readValue_write w hw (Nat.le_add_left _ (2 * (write v).length)) hds
  rw [h, hsecond] at hfirst
  simp only [Except.ok.injEq, Prod.mk.injEq] at hfirst
  exact ⟨hfirst.1.symm, hfirst.2.symm⟩

end Json
end VideoBundle
