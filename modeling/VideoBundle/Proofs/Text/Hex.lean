import Mathlib.Algebra.Group.Nat.Defs
import VideoBundle.Text.Hex

/-!
# Reading hexadecimal numerals back

Digits are read in either case, so that one statement serves the numerals of both.

Main results:

- `hexValue?_lowerHex`, `hexValue?_upperHex`: a written digit reads back as its value.
- `hexNumber?_hexNumeral`: a written numeral reads back as its number.
-/

namespace VideoBundle
namespace Text

/-- A lowercase digit reads back as its value. -/
theorem hexValue?_lowerHex : ∀ n < 16, hexValue? (hexDigit lowerHex n) = some n := by
  decide

/-- An uppercase digit reads back as its value. -/
theorem hexValue?_upperHex : ∀ n < 16, hexValue? (hexDigit upperHex n) = some n := by
  decide

/-- A written numeral reads back as its number, as far as its digits reach. -/
theorem hexNumber?_hexNumeral {digits : List Char}
    (h : ∀ n < 16, hexValue? (hexDigit digits n) = some n) (width n : Nat) :
    hexNumber? (hexNumeral digits width n) = some (n % 16 ^ width) := by
  rw [hexNumber?]
  induction width generalizing n with
  | zero => simp [hexNumeral, Nat.mod_one]
  | succ width ih =>
      have hdigit : hexValue? (hexDigit digits n) = some (n % 16) := by
        have := h (n % 16) (Nat.mod_lt _ (by decide))
        simpa [hexDigit] using this
      have hmod : 16 * (n / 16 % 16 ^ width) + n % 16 = n % 16 ^ (width + 1) := by
        rw [Nat.pow_succ', Nat.mod_mul]
        omega
      rw [hexNumeral, List.foldlM_append, ih]
      simp [hdigit, hmod]

end Text
end VideoBundle
