import VideoBundle.Proofs.Json.RoundTrip

/-!
# Strict JSON texts

The reader takes `NaN`, `Infinity` and `-Infinity` for numbers, which JSON does not have.  A text is
strict when it is read and none of these names stands outside its quoted texts.

Main results:

- `occursIn_iff_infix`: the search for a pattern finds exactly what a text contains.
- `exists_bare_write`: what stands outside the quoted texts of a written value.
- `isStrict_encode_iff`: a written value is strict exactly when its binary numbers are finite.
-/

namespace VideoBundle

/-- The search for a pattern against its places in the text. -/
theorem Text.occursIn_iff_infix {pattern cs : List Char} :
    Text.occursIn pattern cs = true ↔ pattern <:+: cs := by
  induction cs with
  | nil => simp [Text.occursIn]
  | cons c cs ih =>
      rw [Text.occursIn, Bool.or_eq_true, ih, List.isPrefixOf_iff_prefix, List.infix_cons_iff]

namespace Json

/-! ## What stands outside quoted texts -/

mutual

/-- The characters outside the quoted texts of a text, with the quotes. -/
def outsideQuotes : List Char → List Char
  | [] => []
  | '"' :: cs => '"' :: behindQuote cs
  | c :: cs => c :: outsideQuotes cs

/-- The characters outside quoted texts behind an opening quote, with the closing one. -/
def behindQuote : List Char → List Char
  | [] => []
  | '"' :: cs => '"' :: outsideQuotes cs
  | '\\' :: _ :: cs => behindQuote cs
  | _ :: cs => behindQuote cs

end

/-- The names of numbers that JSON does not have; the second one stands behind a minus as well. -/
def lenientNames : List (List Char) :=
  [['N', 'a', 'N'], ['I', 'n', 'f', 'i', 'n', 'i', 't', 'y']]

/-- Whether a text is JSON in the strict sense: it is read, and no name of a number stands outside its
quoted texts. -/
def IsStrict (text : String) : Prop :=
  (∃ v, decode text = .ok v) ∧
    ∀ name ∈ lenientNames, Text.occursIn name (outsideQuotes text.toList) = false

/-! ## Pieces of texts -/

/-- A piece of a text that ends outside of quotes, with what of it stands outside.  This holds a name of
a number unless a condition holds, under which not even the first letters of names stand there. -/
structure Piece (cs outside : List Char) (P : Prop) : Prop where
  eq : ∀ rest, outsideQuotes (cs ++ rest) = outside ++ outsideQuotes rest
  clean : P → 'N' ∉ outside ∧ 'I' ∉ outside
  named : ¬P → ∃ name ∈ lenientNames, name <:+: outside

namespace Piece

variable {cs ds l m : List Char} {P Q : Prop}

/-- A piece under one condition is one under any equivalent condition. -/
theorem congr (h : Piece cs l P) (hPQ : P ↔ Q) : Piece cs l Q :=
  ⟨h.eq, fun hQ => h.clean (hPQ.2 hQ), fun hQ => h.named fun hP => hQ (hPQ.1 hP)⟩

/-- Pieces one after another are a piece, under both conditions. -/
theorem append (hcs : Piece cs l P) (hds : Piece ds m Q) : Piece (cs ++ ds) (l ++ m) (P ∧ Q) where
  eq rest := by rw [List.append_assoc, hcs.eq, hds.eq, List.append_assoc]
  clean h := by
    have hl := hcs.clean h.1
    have hm := hds.clean h.2
    simp [hl, hm]
  named h := by
    by_cases hP : P
    · rcases hds.named fun hQ => h ⟨hP, hQ⟩ with ⟨name, hname, hinfix⟩
      exact ⟨name, hname, hinfix.trans (List.suffix_append l m).isInfix⟩
    · rcases hcs.named hP with ⟨name, hname, hinfix⟩
      exact ⟨name, hname, hinfix.trans (List.prefix_append l m).isInfix⟩

/-- Characters without quotes are a piece. -/
theorem of_unquoted (h : ∀ c ∈ cs, c ≠ '"') (hclean : P → 'N' ∉ cs ∧ 'I' ∉ cs)
    (hnamed : ¬P → ∃ name ∈ lenientNames, name <:+: cs) : Piece cs cs P where
  eq rest := by
    clear hclean hnamed
    induction cs with
    | nil => rfl
    | cons c cs ih =>
        rw [List.forall_mem_cons] at h
        rw [List.cons_append, outsideQuotes.eq_3 _ _ h.1, ih h.2]
        rfl
  clean := hclean
  named := hnamed

/-- Characters without quotes and capital letters of names are a clean piece. -/
theorem of_plain (h : ∀ c ∈ cs, c ≠ '"' ∧ c ≠ 'N' ∧ c ≠ 'I') : Piece cs cs True :=
  of_unquoted (fun c hc => (h c hc).1)
    (fun _ => ⟨fun hN => (h _ hN).2.1 rfl, fun hI => (h _ hI).2.2 rfl⟩) (absurd trivial)

end Piece

/-- A character that neither closes nor escapes leaves the scan inside the quotes. -/
theorem behindQuote_plain {c : Char} (hquote : c ≠ '"') (hslash : c ≠ '\\') (cs : List Char) :
    behindQuote (c :: cs) = behindQuote cs :=
  behindQuote.eq_4 _ _ hquote (fun _ _ h => absurd h hslash)

/-- Inside of quotes a written unit leaves nothing. -/
theorem behindQuote_writeUnit (u : UInt16) (cs : List Char) :
    behindQuote (writeUnit u ++ cs) = behindQuote cs := by
  rcases writeUnit_cases u with ⟨c, hwrite, ⟨_, hquote, hslash⟩, _⟩ | ⟨c, hwrite, _⟩ |
    ⟨a, b, c, d, hwrite, hnumber⟩ <;> rw [hwrite]
  · exact behindQuote_plain hquote hslash cs
  · exact behindQuote.eq_3 c cs
  · have hdigits := (isSome_hexNumber?_iff [a, b, c, d]).1 (by simp [hnumber])
    have hskip : ∀ x ∈ [a, b, c, d], ∀ cs, behindQuote (x :: cs) = behindQuote cs := by
      intro x hx
      have hdigit := hdigits x hx
      refine behindQuote_plain ?_ ?_ <;> rintro rfl <;> exact absurd hdigit (by decide)
    simp only [List.forall_mem_cons] at hskip
    obtain ⟨ha, hb, hc, hd, _⟩ := hskip
    simp only [List.cons_append, List.nil_append]
    rw [behindQuote.eq_3, ha, hb, hc, hd]

/-- A written text leaves only its quotes outside and is strict without a condition. -/
theorem piece_writeUnits (us : UnitText) : Piece (writeUnits us) ['"', '"'] True where
  eq rest := by
    have hunits : behindQuote (us.flatMap writeUnit ++ '"' :: rest) = '"' :: outsideQuotes rest := by
      induction us with
      | nil => rfl
      | cons u us ih => rw [List.flatMap_cons, List.append_assoc, behindQuote_writeUnit, ih]
    rw [writeUnits, List.cons_append, outsideQuotes, List.append_assoc, List.singleton_append, hunits]
    rfl
  clean _ := by decide
  named h := absurd trivial h

/-! ## Numbers -/

/-- The characters of a numeral are no quotes and no capital letters of names. -/
theorem plain_text {n : Numeral} (h : n.WellFormed) : ∀ c ∈ n.text, c ≠ '"' ∧ c ≠ 'N' ∧ c ≠ 'I' := by
  intro c hc
  rcases h.of_mem_text hc with hdigit | hother
  · exact ⟨ne_of_eq_true hdigit (by decide), ne_of_eq_true hdigit (by decide),
      ne_of_eq_true hdigit (by decide)⟩
  · have hall : ∀ c ∈ ['-', '+', '.', 'e'], c ≠ '"' ∧ c ≠ 'N' ∧ c ≠ 'I' := by decide
    exact hall c hother

/-- A written number is a piece, which names it unless it is finite. -/
theorem piece_writeNumber (n : Number) :
    Piece (writeNumber n) (writeNumber n) (∀ x, n = .float x → x.isFinite = true) := by
  match n with
  | .int i =>
      obtain ⟨m, hm, _, htext, _⟩ := exists_text_integerDigits i
      rw [writeNumber_int, ← htext]
      exact (Piece.of_plain (plain_text hm)).congr (by simp)
  | .float .nan =>
      rw [writeNumber_nan]
      refine Piece.of_unquoted (by simp) (fun h => absurd (h .nan rfl) Bool.false_ne_true) fun _ => ?_
      exact ⟨_, List.mem_cons_self, List.infix_refl _⟩
  | .float (.infinite negative) =>
      rw [writeNumber_infinite]
      refine Piece.of_unquoted (by cases negative <;> simp)
        (fun h => absurd (h (.infinite negative) rfl) Bool.false_ne_true) fun _ => ?_
      exact ⟨_, List.mem_cons_of_mem _ List.mem_cons_self, (List.suffix_append _ _).isInfix⟩
  | .float (.finite negative m) =>
      obtain ⟨n, hn, _, htext, _⟩ := exists_text_numeral .standard negative m
      rw [writeNumber_finite, ← htext]
      refine (Piece.of_plain (plain_text hn)).congr (iff_of_true trivial ?_)
      rintro _ ⟨⟩
      rfl

/-! ## Values -/

open UnitText (ofString)

theorem Piece.nil : Piece [] [] True :=
  Piece.of_plain (List.forall_mem_nil _)

/-- A character of the grammar in front of a piece makes no literal that is not strict. -/
theorem Piece.cons {cs l : List Char} {P : Prop} (h : Piece cs l P) {c : Char}
    (hc : c ≠ '"' ∧ c ≠ 'N' ∧ c ≠ 'I') : Piece (c :: cs) (c :: l) P :=
  ((Piece.of_plain (by simpa using hc) : Piece [c] [c] True).append h).congr (by simp)

theorem Piece.concat {cs l : List Char} {P : Prop} (h : Piece cs l P) {c : Char}
    (hc : c ≠ '"' ∧ c ≠ 'N' ∧ c ≠ 'I') : Piece (cs ++ [c]) (l ++ [c]) P :=
  (h.append (Piece.of_plain (by simpa using hc) : Piece [c] [c] True)).congr (by simp)

mutual

/-- A written value is a piece, and outside its quoted texts stands a name of a number unless all its
binary numbers are finite. -/
theorem exists_piece_write (v : Value String) :
    ∃ l, Piece (write (v.mapText ofString)) l v.HasFiniteFloats := by
  cases v with
  | null =>
      refine ⟨_, (Piece.of_plain ?_).congr (iff_of_true trivial trivial)⟩
      simp [Value.mapText, write]
  | bool b =>
      refine ⟨_, (Piece.of_plain ?_).congr (iff_of_true trivial trivial)⟩
      cases b <;> simp [Value.mapText, write]
  | number n => exact ⟨_, (piece_writeNumber n).congr Value.hasFiniteFloats_number_iff.symm⟩
  | text t => exact ⟨_, (piece_writeUnits _).congr (iff_of_true trivial trivial)⟩
  | list items =>
      obtain ⟨l, hl⟩ := exists_piece_writeItems items
      refine ⟨_, ((hl.concat (c := ']') (by decide)).cons (c := '[') (by decide)).congr ?_⟩
      exact Value.hasFiniteFloats_list_iff.symm
  | object entries =>
      obtain ⟨l, hl⟩ := exists_piece_writeEntries entries
      refine ⟨_, ((hl.concat (c := '}') (by decide)).cons (c := '{') (by decide)).congr ?_⟩
      exact Value.hasFiniteFloats_object_iff.symm

/-- Written items are a piece, strict exactly if all their floats are finite. -/
theorem exists_piece_writeItems (vs : List (Value String)) :
    ∃ l, Piece (writeItems (Value.mapTextItems ofString vs)) l (∀ v ∈ vs, v.HasFiniteFloats) := by
  cases vs with
  | nil => exact ⟨[], Piece.nil.congr (by simp)⟩
  | cons v vs =>
      obtain ⟨l, hl⟩ := exists_piece_write v
      cases vs with
      | nil => exact ⟨l, hl.congr (by simp)⟩
      | cons w vs =>
          obtain ⟨m, hm⟩ := exists_piece_writeItems (w :: vs)
          rw [Value.mapTextItems, Value.mapTextItems, writeItems_cons, ← Value.mapTextItems]
          have hrest := (hm.cons (c := ' ') (by decide)).cons (c := ',') (by decide)
          exact ⟨_, (hl.append hrest).congr List.forall_mem_cons.symm⟩

/-- Written entries are a piece, strict exactly if all their floats are finite. -/
theorem exists_piece_writeEntries (es : List (String × Value String)) :
    ∃ l, Piece (writeEntries (Value.mapTextEntries ofString es)) l
      (∀ e ∈ es, e.2.HasFiniteFloats) := by
  cases es with
  | nil => exact ⟨[], Piece.nil.congr (by simp)⟩
  | cons e es =>
      obtain ⟨k, v⟩ := e
      obtain ⟨l, hl⟩ := exists_piece_write v
      have hkey := (piece_writeUnits (ofString k))
      cases es with
      | nil =>
          rw [Value.mapTextEntries, Value.mapTextEntries, writeEntries_singleton]
          exact ⟨_, (hkey.append ((hl.cons (c := ' ') (by decide)).cons (c := ':') (by decide))).congr
            (by simp)⟩
      | cons e es =>
          obtain ⟨m, hm⟩ := exists_piece_writeEntries (e :: es)
          have hmapped : Value.mapTextEntries ofString (e :: es) =
              (ofString e.1, e.2.mapText ofString) :: Value.mapTextEntries ofString es := rfl
          rw [Value.mapTextEntries, hmapped, writeEntries_cons, ← hmapped]
          have hrest := hl.append ((hm.cons (c := ' ') (by decide)).cons (c := ',') (by decide))
          have hvalue := (hrest.cons (c := ' ') (by decide)).cons (c := ':') (by decide)
          refine ⟨_, (hkey.append hvalue).congr ?_⟩
          simp only [true_and, List.forall_mem_cons]

end

/-- A written value is strict exactly when its binary numbers are finite. -/
theorem isStrict_encode_iff {v : Value String} (hwritable : v.isWritable = true)
    (hkeys : v.HasDistinctKeys) : IsStrict (encode v) ↔ v.HasFiniteFloats := by
  obtain ⟨l, hl⟩ := exists_piece_write v
  have houtside : outsideQuotes (encode v).toList = l := by
    have := hl.eq []
    rw [List.append_nil] at this
    rw [encode, String.toList_ofList, this]
    exact List.append_nil l
  rw [IsStrict, houtside]
  constructor
  · rintro ⟨_, hnameless⟩
    by_contra hnot
    obtain ⟨name, hname, hinfix⟩ := hl.named hnot
    have := hnameless name hname
    rw [Text.occursIn_iff_infix.2 hinfix] at this
    cases this
  · intro hfinite
    obtain ⟨hN, hI⟩ := hl.clean hfinite
    refine ⟨⟨v, decode_encode v hwritable hkeys⟩, fun name hname => ?_⟩
    rw [Bool.eq_false_iff]
    intro hoccurs
    have hsubset := (Text.occursIn_iff_infix.1 hoccurs).subset
    rw [lenientNames, List.mem_cons, List.mem_singleton] at hname
    rcases hname with rfl | rfl
    · exact hN (hsubset (by simp))
    · exact hI (hsubset (by simp))

end Json
end VideoBundle
