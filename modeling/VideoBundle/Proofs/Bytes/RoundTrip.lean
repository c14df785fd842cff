import Mathlib.Tactic.SplitIfs
import VideoBundle.Bytes.Base64
import VideoBundle.Bytes.Percent
import VideoBundle.Text.Units
import VideoBundle.Proofs.Text.Hex

/-!
# Bytes that are written and read back

Base64 and percent encoding lose no byte.  Bytes that UTF-8 can read are the encoding of what it reads,
since of the ways to write a character only the shortest is accepted.

Main results:

- `Base64.decode?_encode`: bytes in Base64 are read back.
- `Percent.decode?_encodeText`: a text in percent encoding is read back as its bytes.
- `Utf8.encode_of_decode`: bytes that were decoded are encoded again.
-/

namespace VideoBundle

/-- A byte is known by its number, from which multiples of 256 may be left out. -/
theorem uint8_ofNat_eq {b : UInt8} {n : Nat} (h : n % 256 = b.toNat) : UInt8.ofNat n = b := by
  rw [← UInt8.toNat_inj, UInt8.toNat_ofNat']
  exact h

/-! ## Base64 -/

namespace Base64

/-- The letter of a number gives back its last six bits. -/
theorem value?_letter (n : Nat) : value? (letter n) = some (n % 64) := by
  have hletters : ∀ n < 64, value? (alphabet.getD n 'A') = some n := by decide +kernel
  exact hletters (n % 64) (Nat.mod_lt _ (by decide))

/-- The sign that fills up the last group is no letter. -/
theorem letter_ne_filler (n : Nat) : letter n ≠ '=' := by
  intro h
  have hvalue := value?_letter n
  rw [h, show value? '=' = none from by decide] at hvalue
  cases hvalue

/-- Bytes in Base64 are read back. -/
theorem decode?_encode (bytes : List UInt8) : decode? (encode bytes) = some bytes := by
  fun_induction encode bytes with
  | case1 => rfl
  | case2 a n =>
      have ha : a.toNat < 256 := a.toNat_lt
      have hn : n / 64 % 64 * 64 + n % 64 = n := by omega
      have hbyte : UInt8.ofNat (n / 16) = a := uint8_ofNat_eq (by omega)
      simp [decode?, value?_letter, hn, hbyte]
  | case3 a b n =>
      have ha : a.toNat < 256 := a.toNat_lt
      have hb : b.toNat < 256 := b.toNat_lt
      have hn : n / 4096 % 64 * 4096 + n / 64 % 64 * 64 + n % 64 = n := by omega
      have hfirst : UInt8.ofNat (n / 1024) = a := uint8_ofNat_eq (by omega)
      have hsecond : UInt8.ofNat (n / 4) = b := uint8_ofNat_eq (by omega)
      simp [decode?, letter_ne_filler, value?_letter, hn, hfirst, hsecond]
  | case4 a b c bytes n ih =>
      have ha : a.toNat < 256 := a.toNat_lt
      have hb : b.toNat < 256 := b.toNat_lt
      have hc : c.toNat < 256 := c.toNat_lt
      have hn : n / 262144 % 64 * 262144 + n / 4096 % 64 * 4096 + n / 64 % 64 * 64 + n % 64 = n := by
        omega
      have hfirst : UInt8.ofNat (n / 65536) = a := uint8_ofNat_eq (by omega)
      have hsecond : UInt8.ofNat (n / 256) = b := uint8_ofNat_eq (by omega)
      have hthird : UInt8.ofNat n = c := uint8_ofNat_eq (by omega)
      -- The sum of the four values is put together before it is cut into bytes.
      simp [decode?, letter_ne_filler, value?_letter, hn, hfirst, hsecond, hthird, ih,
        -UInt8.ofNat_add, -UInt8.ofNat_mul]

end Base64

/-! ## Percent encoding -/

namespace Percent

/-- A byte that stands for itself is one of ASCII, and not the percent sign. -/
theorem lt_of_isUnreserved {b : UInt8} (h : isUnreserved b = true) :
    b.toNat < 0x80 ∧ b.toNat ≠ 0x25 := by
  simp only [isUnreserved, Bool.or_eq_true, Bool.and_eq_true, decide_eq_true_eq, beq_iff_eq] at h
  omega

/-- A byte in percent encoding is read back in front of whatever is read behind it. -/
theorem decode?_encodeByte_append (b : UInt8) (cs : List Char) :
    decode? (encodeByte b ++ cs) = (decode? cs).map (b :: ·) := by
  unfold encodeByte
  split
  · rename_i hplain
    obtain ⟨hlt, hne⟩ := lt_of_isUnreserved hplain
    have hcode : (Char.ofNat b.toNat).toNat = b.toNat := toNat_charOfNat (.inl (by omega))
    have hsign : Char.ofNat b.toNat ≠ '%' := by
      intro heq
      rw [heq] at hcode
      exact hne hcode.symm
    rw [List.singleton_append, decode?.eq_def]
    simp only [if_neg hsign, hcode, if_pos hlt, UInt8.ofNat_toNat]
  · obtain ⟨high, low, hdigits⟩ : ∃ high low,
        Text.hexNumeral Text.upperHex 2 b.toNat = [high, low] := ⟨_, _, rfl⟩
    have hnumber := Text.hexNumber?_hexNumeral Text.hexValue?_upperHex 2 b.toNat
    have hlt : b.toNat < 16 ^ 2 := b.toNat_lt
    rw [Nat.mod_eq_of_lt hlt, hdigits] at hnumber
    rw [hdigits]
    simp only [List.cons_append, List.nil_append]
    rw [decode?, if_pos rfl]
    simp only [hnumber, Option.bind_eq_bind, Option.bind_some, UInt8.ofNat_toNat]
    cases decode? cs <;> rfl

/-- Bytes in percent encoding are read back. -/
theorem decode?_encodeBytes (bytes : List UInt8) :
    decode? (bytes.flatMap encodeByte) = some bytes := by
  induction bytes with
  | nil => rfl
  | cons b bytes ih =>
      rw [List.flatMap_cons, decode?_encodeByte_append, ih]
      rfl

/-- A text in percent encoding is read back as its bytes. -/
theorem decode?_encodeText (cs : List Char) : decode? (encodeText cs) = some (Utf8.encode cs) :=
  decode?_encodeBytes (Utf8.encode cs)

end Percent

/-! ## UTF-8 -/

namespace Utf8

/-- Whether a byte continues a character. -/
abbrev Continues (n : Nat) : Prop := 0x80 ≤ n ∧ n < 0xC0

/-- The test on an octet against the range of continuation octets. -/
theorem isContinuation_iff {n : Nat} : isContinuation n = true ↔ Continues n := by
  simp [isContinuation, Continues]

/-- What stands at the start of bytes that begin with a character: one byte, or a first byte and up to
three that continue it.  The bounds on the second byte leave out longer ways to write a character,
surrogates, and numbers that no character has. -/
theorem step_eq_char {first width : Nat} {rest : List Nat} {c : Char}
    (h : step first rest = .char c width) :
    (width = 1 ∧ first < 0x80 ∧ c = Char.ofNat first) ∨
      (∃ x more, width = 2 ∧ rest = x :: more ∧ 0xC2 ≤ first ∧ first < 0xE0 ∧ Continues x ∧
        c = Char.ofNat ((first - 0xC0) * 0x40 + (x - 0x80))) ∨
      (∃ x y more, width = 3 ∧ rest = x :: y :: more ∧ 0xE0 ≤ first ∧ first < 0xF0 ∧
        Continues x ∧ (first = 0xE0 → 0xA0 ≤ x) ∧ (first = 0xED → x < 0xA0) ∧ Continues y ∧
        c = Char.ofNat ((first - 0xE0) * 0x1000 + (x - 0x80) * 0x40 + (y - 0x80))) ∨
      ∃ x y z more, width = 4 ∧ rest = x :: y :: z :: more ∧ 0xF0 ≤ first ∧ first < 0xF5 ∧
        Continues x ∧ (first = 0xF0 → 0x90 ≤ x) ∧ (first = 0xF4 → x < 0x90) ∧ Continues y ∧
        Continues z ∧ c = Char.ofNat
          ((first - 0xF0) * 0x40000 + (x - 0x80) * 0x1000 + (y - 0x80) * 0x40 + (z - 0x80)) := by
  unfold step at h
  by_cases h1 : first < 0x80
  · rw [if_pos h1] at h
    simp only [Step.char.injEq] at h
    exact .inl ⟨h.2.symm, h1, h.1.symm⟩
  rw [if_neg h1] at h
  by_cases h2 : first < 0xC2
  · rw [if_pos h2] at h
    cases h
  rw [if_neg h2] at h
  by_cases h3 : first < 0xE0
  · rw [if_pos h3] at h
    split at h
    · cases h
    · split_ifs at h with hx
      simp only [Step.char.injEq] at h
      exact .inr (.inl ⟨_, _, h.2.symm, rfl, by omega, h3, isContinuation_iff.1 hx, h.1.symm⟩)
  rw [if_neg h3] at h
  by_cases h4 : first < 0xF0
  · rw [if_pos h4] at h
    dsimp only at h
    split at h
    · cases h
    · split_ifs at h
    · split_ifs at h with hx hy
      simp only [Bool.not_eq_false, Bool.and_eq_true, Bool.or_eq_true, Bool.not_eq_true', bne_iff_ne,
        decide_eq_true_eq] at hx hy
      rw [isContinuation_iff] at hx hy
      simp only [Step.char.injEq] at h
      exact .inr (.inr (.inl ⟨_, _, _, h.2.symm, rfl, by omega, h4, hx.1.1, by omega, by omega, hy,
        h.1.symm⟩))
  rw [if_neg h4] at h
  by_cases h5 : first < 0xF5
  · rw [if_pos h5] at h
    dsimp only at h
    split at h
    · cases h
    · split_ifs at h
    · split_ifs at h
    · split_ifs at h with hx hy hz
      simp only [Bool.not_eq_false, Bool.and_eq_true, Bool.or_eq_true, Bool.not_eq_true', bne_iff_ne,
        decide_eq_true_eq] at hx hy hz
      rw [isContinuation_iff] at hx hy hz
      simp only [Step.char.injEq] at h
      exact .inr (.inr (.inr ⟨_, _, _, _, h.2.symm, rfl, by omega, h5, hx.1.1, by omega, by omega,
        hy, hz, h.1.symm⟩))
  · rw [if_neg h5] at h
    cases h

/-- A character that stands at the start of bytes is written with these bytes. -/
theorem encodeChar_of_step {b : UInt8} {bytes : List UInt8} {c : Char} {width : Nat}
    (h : step b.toNat ((bytes.take 3).map UInt8.toNat) = .char c width) :
    encodeChar c = b :: bytes.take (width - 1) := by
  rcases step_eq_char h with ⟨rfl, hfirst, hc⟩ | ⟨x, more, rfl, hrest, hlow, hhigh, hx, hc⟩ |
    ⟨x, y, more, rfl, hrest, hlow, hhigh, hx, hlong, hsurrogate, hy, hc⟩ |
    ⟨x, y, z, more, rfl, hrest, hlow, hhigh, hx, hlong, hlast, hy, hz, hc⟩
  · have hcode : c.toNat = b.toNat := by
      rw [hc]
      exact toNat_charOfNat (.inl (by omega))
    simp [encodeChar, hcode, hfirst]
  · obtain _ | ⟨p, bytes⟩ := bytes
    · cases hrest
    obtain ⟨rfl, -⟩ := List.cons.inj hrest
    have hcode : c.toNat = (b.toNat - 0xC0) * 0x40 + (p.toNat - 0x80) := by
      rw [hc]
      exact toNat_charOfNat (.inl (by omega))
    rw [encodeChar, hcode, if_neg (by omega), if_pos (by omega),
      uint8_ofNat_eq (b := b) (by omega), uint8_ofNat_eq (b := p) (by omega)]
    rfl
  · obtain _ | ⟨p, _ | ⟨q, bytes⟩⟩ := bytes
    · cases hrest
    · cases hrest
    simp only [List.take_succ_cons, List.map_cons, List.cons.injEq] at hrest
    obtain ⟨rfl, rfl, -⟩ := hrest
    have hcode : c.toNat = (b.toNat - 0xE0) * 0x1000 + (p.toNat - 0x80) * 0x40 + (q.toNat - 0x80) := by
      rw [hc]
      apply toNat_charOfNat
      unfold Nat.isValidChar
      omega
    rw [encodeChar, hcode, if_neg (by omega), if_neg (by omega), if_pos (by omega),
      uint8_ofNat_eq (b := b) (by omega), uint8_ofNat_eq (b := p) (by omega),
      uint8_ofNat_eq (b := q) (by omega)]
    rfl
  · obtain _ | ⟨p, _ | ⟨q, _ | ⟨r, bytes⟩⟩⟩ := bytes
    · cases hrest
    · cases hrest
    · cases hrest
    simp only [List.take_succ_cons, List.map_cons, List.cons.injEq] at hrest
    obtain ⟨rfl, rfl, rfl, -⟩ := hrest
    have hcode : c.toNat = (b.toNat - 0xF0) * 0x40000 + (p.toNat - 0x80) * 0x1000 +
        (q.toNat - 0x80) * 0x40 + (r.toNat - 0x80) := by
      rw [hc]
      apply toNat_charOfNat
      unfold Nat.isValidChar
      omega
    rw [encodeChar, hcode, if_neg (by omega), if_neg (by omega), if_neg (by omega),
      uint8_ofNat_eq (b := b) (by omega), uint8_ofNat_eq (b := p) (by omega),
      uint8_ofNat_eq (b := q) (by omega), uint8_ofNat_eq (b := r) (by omega)]
    rfl

/-- What is decoded behind the bytes of the character before is encoded to the bytes that are left. -/
theorem encode_of_decodeFrom {bytes : List UInt8} {cs : List Char} {skip offset : Nat}
    (h : decodeFrom skip offset bytes = .ok cs) : encode cs = bytes.drop skip := by
  induction bytes generalizing skip offset cs with
  | nil =>
      cases h
      simp [encode]
  | cons b bytes ih =>
      cases skip with
      | succ skip =>
          rw [decodeFrom] at h
          exact ih h
      | zero =>
          rw [decodeFrom] at h
          split at h
          · rename_i c width hstep
            split at h
            · rename_i rest hrest
              cases h
              have hchar := encodeChar_of_step hstep
              rw [encode, List.flatMap_cons, hchar, List.cons_append]
              have := ih hrest
              rw [encode] at this
              rw [this, List.take_append_drop, List.drop_zero]
            · cases h
          · cases h

/-- Bytes that were decoded are encoded again. -/
theorem encode_of_decode {bytes : List UInt8} {cs : List Char} (h : decode bytes = .ok cs) :
    encode cs = bytes :=
  encode_of_decodeFrom h

end Utf8
end VideoBundle
