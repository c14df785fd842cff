import Mathlib.Data.List.Basic
import VideoBundle.Bytes.Base64
import VideoBundle.Bytes.Percent

/-!
# Characters that bytes are written with

What is written for bytes stays inside a small part of ASCII, so that it can stand in a URL; and the bytes
of a text are those that the string itself consists of.

Main results:

- `Base64.isWritten_of_mem_encode`, `Percent.isWritten_of_mem_encodeText`: the characters of the two
  encodings.
- `Utf8.encode_toList`: the bytes of a text are the bytes of the string.
-/

namespace VideoBundle

/-! ## Base64 -/

namespace Base64

/-- What stands in Base64: letters and digits, two signs, and the sign that fills up the last group. -/
def IsWritten (c : Char) : Prop :=
  c.isAlphanum = true ∨ c ∈ ['+', '/', '=']

instance : DecidablePred IsWritten := fun c =>
  inferInstanceAs (Decidable (c.isAlphanum = true ∨ c ∈ ['+', '/', '=']))

theorem isWritten_letter (n : Nat) : IsWritten (letter n) := by
  have hletters : ∀ n < 64, IsWritten (alphabet.getD n 'A') := by decide +kernel
  exact hletters (n % 64) (Nat.mod_lt _ (by decide))

theorem isWritten_filler : IsWritten '=' := by decide

/-- The characters of Base64. -/
theorem isWritten_of_mem_encode {bytes : List UInt8} : ∀ c ∈ encode bytes, IsWritten c := by
  fun_induction encode bytes with
  | case1 => exact List.forall_mem_nil _
  | case2 a => simp [isWritten_letter, isWritten_filler]
  | case3 a b => simp [isWritten_letter, isWritten_filler]
  | case4 a b c bytes _ ih => simpa [isWritten_letter] using ih

end Base64

/-! ## Percent encoding -/

namespace Percent

/-- What stands in percent encoding: letters and digits, four signs, and the percent sign. -/
def IsWritten (c : Char) : Prop :=
  c.isAlphanum = true ∨ c ∈ ['_', '.', '-', '~', '%']

instance : DecidablePred IsWritten := fun c =>
  inferInstanceAs (Decidable (c.isAlphanum = true ∨ c ∈ ['_', '.', '-', '~', '%']))

/-- A byte in percent encoding is written in characters that may stand in a data URL. -/
theorem isWritten_of_mem_encodeByte (b : UInt8) : ∀ c ∈ encodeByte b, IsWritten c := by
  have hbytes : ∀ n < 256, ∀ c ∈ encodeByte (UInt8.ofNat n), IsWritten c := by decide +kernel
  simpa using hbytes b.toNat b.toNat_lt

/-- The characters of percent encoding. -/
theorem isWritten_of_mem_encodeText {cs : List Char} : ∀ c ∈ encodeText cs, IsWritten c := by
  intro c hc
  obtain ⟨b, _, hb⟩ := List.mem_flatMap.1 hc
  exact isWritten_of_mem_encodeByte b c hb

end Percent

/-! ## UTF-8 -/

namespace Utf8

/-- The bytes of a character are those that a string has for it. -/
theorem encodeChar_eq (c : Char) : encodeChar c = String.utf8EncodeChar c := by
  have hvalid : c.toNat < 0x110000 := by
    have := c.valid
    rcases this with h | h
    · exact Nat.lt_trans h (by decide)
    · exact h.2
  have hcode : c.val.toNat = c.toNat := rfl
  simp only [encodeChar, String.utf8EncodeChar, hcode]
  by_cases hone : c.toNat < 0x80
  · rw [if_pos hone, if_pos (by omega)]
  rw [if_neg hone, if_neg (show ¬c.toNat ≤ 127 by omega)]
  -- The order of the summands and a remainder that changes nothing are all that differs.
  by_cases htwo : c.toNat < 0x800
  · rw [if_pos htwo, if_pos (by omega), Nat.mod_eq_of_lt (b := 32) (by omega)]
    simp only [Nat.add_comm]
  rw [if_neg htwo, if_neg (show ¬c.toNat ≤ 2047 by omega)]
  by_cases hthree : c.toNat < 0x10000
  · rw [if_pos hthree, if_pos (by omega), Nat.mod_eq_of_lt (b := 16) (by omega)]
    simp only [Nat.add_comm]
  · rw [if_neg hthree, if_neg (by omega), Nat.mod_eq_of_lt (b := 8) (by omega)]
    simp only [Nat.add_comm]

/-- The bytes of a text are the bytes of the string. -/
theorem encode_toList (s : String) : encode s.toList = s.toUTF8.data.toList := by
  have hchars : encode s.toList = s.toList.flatMap String.utf8EncodeChar :=
    congrArg s.toList.flatMap (funext encodeChar_eq)
  have hbytes : s.toByteArray = s.toList.utf8Encode := by
    rw [← String.toByteArray_ofList, String.ofList_toList]
  rw [hchars, String.toUTF8_eq_toByteArray, hbytes, List.utf8Encode, List.toList_data_toByteArray]

end Utf8
end VideoBundle
