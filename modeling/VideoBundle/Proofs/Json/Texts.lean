import Mathlib.Tactic.SplitIfs
import VideoBundle.Json.Reader
import VideoBundle.Json.Writer
import VideoBundle.Proofs.Text.Hex

/-!
# Texts in quotes

What the reader accepts between two quotes, said as a grammar: plain characters, short escapes and
escapes of four hexadecimal digits.  A written text is read back as the units it was written for.

Main results:

- `writeUnit_cases`: the three ways in which a unit is written.
- `readUnits_writeUnits`: a written text is read back.
-/

namespace VideoBundle
namespace Json

/-! ## Hexadecimal digits -/

/-- Whether a character is a hexadecimal digit. -/
def IsHexDigit (c : Char) : Prop :=
  ('0' ≤ c ∧ c ≤ '9') ∨ ('a' ≤ c ∧ c ≤ 'f') ∨ ('A' ≤ c ∧ c ≤ 'F')

instance (c : Char) : Decidable (IsHexDigit c) := by
  unfold IsHexDigit
  infer_instance

/-- The hex digits are those that have a value. -/
theorem isSome_hexValue?_iff (c : Char) : (Text.hexValue? c).isSome = true ↔ IsHexDigit c := by
  have hle : ∀ a b : Char, a ≤ b ↔ a.toNat ≤ b.toNat := fun _ _ => Iff.rfl
  simp only [IsHexDigit, hle, Text.hexValue?]
  change _ ↔ (48 ≤ c.toNat ∧ c.toNat ≤ 57) ∨ (97 ≤ c.toNat ∧ c.toNat ≤ 102) ∨
    (65 ≤ c.toNat ∧ c.toNat ≤ 70)
  split
  · simp [*]
  · split
    · simp [*]
    · split
      · simp [*]
      · simp only [Option.isSome_none, Bool.false_eq_true, false_iff]
        omega

/-- A row of characters writes a number exactly when all of them are digits. -/
theorem isSome_hexNumber?_iff (cs : List Char) :
    (Text.hexNumber? cs).isSome = true ↔ ∀ c ∈ cs, IsHexDigit c := by
  rw [Text.hexNumber?]
  generalize 0 = n
  induction cs generalizing n with
  | nil => simp [pure]
  | cons c cs ih =>
      rw [List.foldlM_cons, List.forall_mem_cons, ← isSome_hexValue?_iff]
      cases hvalue : Text.hexValue? c with
      | none => simp
      | some value => simpa using ih (16 * n + value)

/-! ## The grammar of bodies -/

/-- Whether a character can stand in a text by itself. -/
def IsPlain (c : Char) : Prop := 0x20 ≤ c.toNat ∧ c ≠ '"' ∧ c ≠ '\\'

instance (c : Char) : Decidable (IsPlain c) := by
  unfold IsPlain
  infer_instance

/-- Whether a character can follow a backslash alone. -/
def IsShortEscape (c : Char) : Prop := c ∈ ['"', '\\', '/', 'b', 'f', 'n', 'r', 't']

/-- The bodies of texts: what can stand between the two quotes. -/
inductive TextBody : List Char → Prop where
  | nil : TextBody []
  | plain {c : Char} {cs : List Char} (hc : IsPlain c) (h : TextBody cs) : TextBody (c :: cs)
  | short {c : Char} {cs : List Char} (hc : IsShortEscape c) (h : TextBody cs) :
      TextBody ('\\' :: c :: cs)
  | unicode {a b c d : Char} {cs : List Char} (hdigits : ∀ x ∈ [a, b, c, d], IsHexDigit x)
      (h : TextBody cs) : TextBody ('\\' :: 'u' :: a :: b :: c :: d :: cs)

/-- Bodies whose closing quote is the next one that no backslash precedes: a backslash takes the
character behind it along, whatever that is. -/
inductive ClosedBody : List Char → Prop where
  | nil : ClosedBody []
  | plain {c : Char} {cs : List Char} (hquote : c ≠ '"') (hslash : c ≠ '\\') (h : ClosedBody cs) :
      ClosedBody (c :: cs)
  | escape {c : Char} {cs : List Char} (h : ClosedBody cs) : ClosedBody ('\\' :: c :: cs)

/-! ## Reading one character or escape -/

namespace TextParts

/-- The code points of a text write its units. -/
theorem units_text (t : TextParts) : t.text.units = t.units := by
  rw [text, PointText.units, List.flatMap_append]
  exact congrArg (· ++ t.points.units) (UnitText.units_points t.escapes)

/-- A point in front of a text puts its units in front. -/
theorem units_addPoint (p : Point) (t : TextParts) :
    (t.addPoint p).units = p.units ++ t.units := by
  rw [← units_text t]
  rfl

end TextParts

section ReadText

variable {halfBefore? : Nat → Option Half} {opening : Nat} {cs : List Char}

/-- A plain character is taken as it stands, or as the half that stands there. -/
theorem readText_plain {c : Char} (hc : IsPlain c) :
    readText halfBefore? opening (c :: cs) = (readText halfBefore? opening cs).map fun found =>
      (found.1.addPoint (((halfBefore? cs.length).map .half).getD (.char c)), found.2) := by
  rw [readText.eq_7 _ _ _ _ hc.2.1 (fun h => absurd h hc.2.2)
    (fun _ _ _ _ _ _ h => absurd h hc.2.2) (fun _ h => absurd h hc.2.2)
    (fun _ _ h => absurd h hc.2.2), if_neg (Nat.not_lt.2 hc.1)]
  cases readText halfBefore? opening cs <;> rfl

/-- A control character inside the quotes is refused where it stands. -/
theorem readText_control {c : Char} (hc : c.toNat < 0x20) :
    readText halfBefore? opening (c :: cs) = .error (.at .controlCharacter (c :: cs)) := by
  have hquote : c ≠ '"' := by rintro rfl; revert hc; decide
  have hslash : c ≠ '\\' := by rintro rfl; revert hc; decide
  rw [readText.eq_7 _ _ _ _ hquote (fun h => absurd h hslash)
    (fun _ _ _ _ _ _ h => absurd h hslash) (fun _ h => absurd h hslash)
    (fun _ _ h => absurd h hslash), if_pos hc]

/-- A short escape gives its unit; any other letter behind a backslash is refused. -/
theorem readText_escape {c : Char} (hc : c ≠ 'u') :
    readText halfBefore? opening ('\\' :: c :: cs) =
      match shortEscape? c with
      | some u =>
          (readText halfBefore? opening cs).map fun found => (found.1.addEscape u, found.2)
      | none => .error (.at .badEscape ('\\' :: c :: cs)) := by
  rw [readText.eq_6 _ _ _ _ (fun _ _ _ _ _ _ h => absurd h hc) hc]
  cases shortEscape? c with
  | none => rfl
  | some u => cases readText halfBefore? opening cs <;> rfl

/-- Four hex digits give their unit; anything else in their place is refused. -/
theorem readText_unicode {a b c d : Char} (hcs : cs ≠ []) :
    readText halfBefore? opening ('\\' :: 'u' :: a :: b :: c :: d :: cs) =
      match Text.hexNumber? [a, b, c, d] with
      | some n => (readText halfBefore? opening cs).map fun found =>
          (found.1.addEscape (UInt16.ofNat n), found.2)
      | none => .error (.at .badUnicodeEscape ('u' :: a :: b :: c :: d :: cs)) := by
  cases cs with
  | nil => exact absurd rfl hcs
  | cons e cs =>
      rw [readText.eq_4]
      cases Text.hexNumber? [a, b, c, d] with
      | none => rfl
      | some n => cases readText halfBefore? opening (e :: cs) <;> rfl

end ReadText

/-! ## Reading texts of strings -/

variable {opening : Nat} {cs : List Char}

/-- A plain character gives its one or two units. -/
theorem readUnits_plain {c : Char} (hc : IsPlain c) :
    readUnits opening (c :: cs) =
      (readUnits opening cs).map fun found => (UnitText.ofChar c ++ found.1, found.2) := by
  rw [readUnits, readUnits, readText_plain hc]
  cases readText (fun _ => none) opening cs with
  | error fault => rfl
  | ok found =>
      exact congrArg (fun us => Except.ok (us, found.2)) (TextParts.units_addPoint (.char c) found.1)

/-- A control character inside the quotes is refused where it stands. -/
theorem readUnits_control {c : Char} (hc : c.toNat < 0x20) :
    readUnits opening (c :: cs) = .error (.at .controlCharacter (c :: cs)) := by
  rw [readUnits, readText_control hc]
  rfl

/-- A short escape gives its unit. -/
theorem readUnits_escape {c : Char} (hc : c ≠ 'u') :
    readUnits opening ('\\' :: c :: cs) =
      match shortEscape? c with
      | some u => (readUnits opening cs).map fun found => (u :: found.1, found.2)
      | none => .error (.at .badEscape ('\\' :: c :: cs)) := by
  rw [readUnits, readUnits, readText_escape hc]
  cases shortEscape? c with
  | none => rfl
  | some u => cases readText (fun _ => none) opening cs <;> rfl

/-- Four hex digits give their unit, a surrogate half as any other. -/
theorem readUnits_unicode {a b c d : Char} (hcs : cs ≠ []) :
    readUnits opening ('\\' :: 'u' :: a :: b :: c :: d :: cs) =
      match Text.hexNumber? [a, b, c, d] with
      | some n => (readUnits opening cs).map fun found => (UInt16.ofNat n :: found.1, found.2)
      | none => .error (.at .badUnicodeEscape ('u' :: a :: b :: c :: d :: cs)) := by
  rw [readUnits, readUnits, readText_unicode hcs]
  cases Text.hexNumber? [a, b, c, d] with
  | none => rfl
  | some n => cases readText (fun _ => none) opening cs <;> rfl

/-- An escape that is read has its four digits, and something behind them. -/
theorem exists_digits_of_readUnits {found : UnitText × List Char}
    (h : readUnits opening ('\\' :: 'u' :: cs) = .ok found) :
    ∃ a b c d rest found', cs = a :: b :: c :: d :: rest ∧ (∀ x ∈ [a, b, c, d], IsHexDigit x) ∧
      readUnits opening rest = .ok found' := by
  match cs with
  | a :: b :: c :: d :: e :: rest =>
      rw [readUnits_unicode (List.cons_ne_nil e rest)] at h
      cases hnumber : Text.hexNumber? [a, b, c, d] with
      | none => simp [hnumber] at h
      | some n =>
          cases hread : readUnits opening (e :: rest) with
          | error fault => simp [hnumber, hread, Except.map] at h
          | ok found' =>
              exact ⟨a, b, c, d, e :: rest, found', rfl,
                (isSome_hexNumber?_iff _).1 (by simp [hnumber]), hread⟩
  | [] | [_] | [_, _] | [_, _, _] | [_, _, _, _] => simp [readUnits, readText.eq_5, Except.map] at h

/-- The short escapes are those that have a unit. -/
theorem isSome_shortEscape?_iff (c : Char) : (shortEscape? c).isSome = true ↔ IsShortEscape c := by
  unfold shortEscape? IsShortEscape
  split <;> simp_all

/-- The letter of the long escape is none of the short ones. -/
theorem ne_unicode_of_shortEscape? {c : Char} (h : IsShortEscape c) : c ≠ 'u' := by
  rintro rfl
  simp [IsShortEscape] at h

/-! ## Bodies are read -/

/-- A body of the grammar is read up to the quote behind it. -/
theorem TextBody.readUnits {body : List Char} (h : TextBody body) (opening : Nat)
    (rest : List Char) : ∃ us, readUnits opening (body ++ '"' :: rest) = .ok (us, rest) := by
  induction h with
  | nil => exact ⟨[], rfl⟩
  | @plain c cs hc _ ih =>
      rcases ih with ⟨us, hus⟩
      exact ⟨UnitText.ofChar c ++ us, by rw [List.cons_append, readUnits_plain hc, hus]; rfl⟩
  | @short c cs hc _ ih =>
      rcases ih with ⟨us, hus⟩
      rcases Option.isSome_iff_exists.1 ((isSome_shortEscape?_iff c).2 hc) with ⟨u, hu⟩
      refine ⟨u :: us, ?_⟩
      rw [List.cons_append, List.cons_append, readUnits_escape (ne_unicode_of_shortEscape? hc), hu,
        hus]
      rfl
  | @unicode a b c d cs hdigits _ ih =>
      rcases ih with ⟨us, hus⟩
      rcases Option.isSome_iff_exists.1 ((isSome_hexNumber?_iff _).2 hdigits) with ⟨n, hn⟩
      refine ⟨UInt16.ofNat n :: us, ?_⟩
      -- The reader wants one more character behind the digits; the closing quote is one at the latest.
      simp only [List.cons_append]
      rw [readUnits_unicode (by simp), hn, hus]
      rfl

/-- A digit in front of the closing quote belongs to the body. -/
theorem ClosedBody.digit {body rest tail : List Char} {x : Char} (h : ClosedBody body)
    (hx : IsHexDigit x) (heq : body ++ '"' :: rest = x :: tail) :
    ∃ more, body = x :: more ∧ ClosedBody more ∧ more ++ '"' :: rest = tail := by
  cases h with
  | nil =>
      rw [List.nil_append, List.cons.injEq] at heq
      exact absurd (heq.1 ▸ hx) (by decide)
  | @plain c cs _ _ h =>
      rw [List.cons_append, List.cons.injEq] at heq
      exact ⟨cs, by rw [heq.1], h, heq.2⟩
  | @escape c cs _ =>
      rw [List.cons_append, List.cons.injEq] at heq
      exact absurd (heq.1 ▸ hx) (by decide)

/-- A closed body that is read up to its quote is one of the grammar. -/
theorem textBody_of_readUnits {body : List Char} (hclosed : ClosedBody body) {rest : List Char}
    {found : UnitText × List Char} (h : readUnits opening (body ++ '"' :: rest) = .ok found) :
    TextBody body := by
  induction hlength : body.length using Nat.strongRecOn generalizing body found with
  | ind length ih =>
  have hless : ∀ {shorter : List Char} {found : UnitText × List Char}, shorter.length < length →
      ClosedBody shorter → Json.readUnits opening (shorter ++ '"' :: rest) = .ok found →
        TextBody shorter := fun hshorter hclosed h => ih _ hshorter hclosed h rfl
  cases hclosed with
  | nil => exact .nil
  | @plain c cs hquote hslash hcs =>
      rw [List.cons_append] at h
      by_cases hc : c.toNat < 0x20
      · simp [readUnits_control hc] at h
      · have hplain : IsPlain c := ⟨Nat.not_lt.1 hc, hquote, hslash⟩
        rw [readUnits_plain hplain] at h
        cases hread : Json.readUnits opening (cs ++ '"' :: rest) with
        | error fault => simp [hread, Except.map] at h
        | ok found => exact .plain hplain (hless (by simp [← hlength]) hcs hread)
  | @escape c cs hcs =>
      rw [List.cons_append, List.cons_append] at h
      by_cases hc : c = 'u'
      · subst hc
        rcases exists_digits_of_readUnits h with ⟨a, b, c, d, tail, _, heq, hdigits, hread⟩
        rcases hcs.digit (hdigits a (by simp)) heq with ⟨cs, rfl, hcs, heq⟩
        rcases hcs.digit (hdigits b (by simp)) heq with ⟨cs, rfl, hcs, heq⟩
        rcases hcs.digit (hdigits c (by simp)) heq with ⟨cs, rfl, hcs, heq⟩
        rcases hcs.digit (hdigits d (by simp)) heq with ⟨cs, rfl, hcs, rfl⟩
        exact .unicode hdigits (hless (by simp only [← hlength, List.length_cons]; omega) hcs hread)
      · rw [readUnits_escape hc] at h
        cases hescape : shortEscape? c with
        | none => simp [hescape] at h
        | some u =>
            have hshort : IsShortEscape c := (isSome_shortEscape?_iff c).1 (by simp [hescape])
            cases hread : Json.readUnits opening (cs ++ '"' :: rest) with
            | error fault => simp [hescape, hread, Except.map] at h
            | ok found =>
                exact .short hshort (hless (by simp only [← hlength, List.length_cons]; omega) hcs hread)

/-- Plain characters are read as they stand. -/
theorem readUnits_of_plain {body : List Char} (h : ∀ c ∈ body, IsPlain c) (opening : Nat)
    (rest : List Char) :
    readUnits opening (body ++ '"' :: rest) = .ok (UnitText.ofChars body, rest) := by
  induction body with
  | nil => rfl
  | cons c body ih =>
      rw [List.forall_mem_cons] at h
      rw [List.cons_append, readUnits_plain h.1, ih h.2]
      rfl

/-! ## Written texts are read back -/

/-- How a unit is written: as a plain character, as a short escape, or by its four digits. -/
theorem writeUnit_cases (u : UInt16) :
    (∃ c, writeUnit u = [c] ∧ IsPlain c ∧ UnitText.ofChar c = [u]) ∨
      (∃ c, writeUnit u = ['\\', c] ∧ shortEscape? c = some u) ∨
      ∃ a b c d, writeUnit u = ['\\', 'u', a, b, c, d] ∧
        Text.hexNumber? [a, b, c, d] = some u.toNat := by
  by_cases hshort : u ∈ ([0x22, 0x5C, 0xA, 0xD, 0x9, 0xC, 0x8] : List UInt16)
  · simp only [List.mem_cons, List.not_mem_nil, or_false] at hshort
    refine .inr (.inl ?_)
    rcases hshort with rfl | rfl | rfl | rfl | rfl | rfl | rfl
    all_goals exact ⟨_, rfl, rfl⟩
  simp only [List.mem_cons, List.not_mem_nil, or_false, not_or] at hshort
  obtain ⟨h1, h2, h3, h4, h5, h6, h7⟩ := hshort
  rw [writeUnit, if_neg h1, if_neg h2, if_neg h3, if_neg h4, if_neg h5, if_neg h6, if_neg h7]
  by_cases hrange : 0x20 ≤ u.toNat ∧ u.toNat ≤ 0x7E
  · rw [if_pos hrange]
    have hcode : (Char.ofNat u.toNat).toNat = u.toNat := toNat_charOfNat (.inl (by omega))
    have hne : ∀ c : Char, u ≠ UInt16.ofNat c.toNat → Char.ofNat u.toNat ≠ c := by
      intro c hc heq
      rw [← heq, hcode, UInt16.ofNat_toNat] at hc
      exact hc rfl
    refine .inl ⟨_, rfl, ⟨by omega, hne '"' h1, hne '\\' h2⟩, ?_⟩
    rw [UnitText.ofChar, hcode, if_pos (by omega), UInt16.ofNat_toNat]
  · rw [if_neg hrange]
    have hnumber := Text.hexNumber?_hexNumeral Text.hexValue?_lowerHex 4 u.toNat
    have hlt : u.toNat < 16 ^ 4 := u.toNat_lt
    rw [Nat.mod_eq_of_lt hlt] at hnumber
    exact .inr (.inr ⟨_, _, _, _, rfl, hnumber⟩)

/-- A written unit is read back in front of whatever is read behind it. -/
theorem readUnits_writeUnit (u : UInt16) {us : UnitText} {rest : List Char}
    (h : readUnits opening cs = .ok (us, rest)) :
    readUnits opening (writeUnit u ++ cs) = .ok (u :: us, rest) := by
  rcases writeUnit_cases u with ⟨c, hwrite, hplain, hunit⟩ | ⟨c, hwrite, hshort⟩ |
    ⟨a, b, c, d, hwrite, hnumber⟩ <;> rw [hwrite]
  · rw [List.singleton_append, readUnits_plain hplain, h, hunit]
    rfl
  · have hescape : IsShortEscape c := (isSome_shortEscape?_iff c).1 (by simp [hshort])
    simp only [List.cons_append, List.nil_append]
    rw [readUnits_escape (ne_unicode_of_shortEscape? hescape), hshort, h]
    rfl
  · have hcs : cs ≠ [] := by
      rintro rfl
      simp [readUnits, readText, Except.map] at h
    simp only [List.cons_append, List.nil_append]
    rw [readUnits_unicode hcs, hnumber, h]
    simp [Except.map]

/-- A written text is read back, whatever follows it. -/
theorem readUnits_writeUnits (us : UnitText) (opening : Nat) (rest : List Char) :
    readUnits opening (us.flatMap writeUnit ++ '"' :: rest) = .ok (us, rest) := by
  induction us with
  | nil => rfl
  | cons u us ih =>
      rw [List.flatMap_cons, List.append_assoc]
      exact readUnits_writeUnit u ih

/-! ## Texts as whole inputs -/

/-- A text is read exactly if the reader takes the whole of it; only the fault of an error depends
on more. -/
theorem readWith_eq_ok_iff {τ : Type} [DecidableEq τ]
    {readTexts : Nat → List Char → Except Fault (τ × List Char)} {v : Value τ} :
    readWith readTexts cs = .ok v ↔ readWhole readTexts cs = .ok v := by
  unfold readWith
  split <;> simp [*]

theorem read_eq_ok_iff {v : Value UnitText} : read cs = .ok v ↔ readWhole readUnits cs = .ok v :=
  readWith_eq_ok_iff

/-- What begins with a quote is a text, and blanks only may follow it. -/
theorem readWhole_quote (cs : List Char) :
    readWhole readUnits ('"' :: cs) =
      match readUnits (cs.length + 1) cs with
      | .error fault => .error fault
      | .ok (us, rest) =>
          match skipSpace rest with
          | [] => .ok (.text us)
          | rest => .error (.at .extraData rest) := by
  have hskip : skipSpace ('"' :: cs) = '"' :: cs := by simp [skipSpace, isSpace]
  simp only [readWhole, hskip, fuelFor, readValue, List.length_cons]
  cases readUnits (cs.length + 1) cs <;> rfl

/-- A closed body in quotes is a whole input exactly when it is one of the grammar. -/
theorem exists_decode_quoted_iff {body : List Char} (hclosed : ClosedBody body) :
    (∃ v, decode (String.ofList ('"' :: (body ++ ['"']))) = .ok v) ↔ TextBody body := by
  unfold decode
  rw [String.toList_ofList]
  constructor
  · rintro ⟨v, hv⟩
    cases hread : read ('"' :: (body ++ ['"'])) with
    | error e => simp [hread, Except.map] at hv
    | ok w =>
        rw [read_eq_ok_iff, readWhole_quote] at hread
        cases hunits : readUnits ((body ++ ['"']).length + 1) (body ++ ['"']) with
        | error fault =>
            rw [hunits] at hread
            cases hread
        | ok found => exact textBody_of_readUnits hclosed hunits
  · intro hbody
    rcases hbody.readUnits ((body ++ ['"']).length + 1) [] with ⟨us, hus⟩
    have hread : read ('"' :: (body ++ ['"'])) = .ok (.text us) := by
      rw [read_eq_ok_iff, readWhole_quote, hus]
      rfl
    exact ⟨_, by rw [hread]; rfl⟩

/-- Plain characters in quotes are decoded as the text of them. -/
theorem decode_quoted_of_plain {body : List Char} (h : ∀ c ∈ body, IsPlain c) :
    decode (String.ofList ('"' :: (body ++ ['"']))) = .ok (.text (String.ofList body)) := by
  have hread : read ('"' :: (body ++ ['"'])) = .ok (.text (UnitText.ofChars body)) := by
    rw [read_eq_ok_iff, readWhole_quote, readUnits_of_plain h]
    rfl
  rw [decode, String.toList_ofList, hread]
  simp [Except.map, Value.mapText, UnitText.toText_ofChars]

end Json
end VideoBundle
