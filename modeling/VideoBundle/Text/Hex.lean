/-!
# Hexadecimal digits

Fixed-width hexadecimal numerals, with digits in lower or upper case.
-/

namespace VideoBundle
namespace Text

/-- The digits in lower case. -/
def lowerHex : List Char := "0123456789abcdef".toList

/-- The digits in upper case. -/
def upperHex : List Char := "0123456789ABCDEF".toList

/-- The digit of a value below sixteen. -/
def hexDigit (digits : List Char) (n : Nat) : Char :=
  digits.getD (n % 16) '0'

/-- A number as a numeral of `width` digits; higher digits are left out. -/
def hexNumeral (digits : List Char) : (width : Nat) → Nat → List Char
  | 0, _ => []
  | width + 1, n => hexNumeral digits width (n / 16) ++ [hexDigit digits n]

/-- The value of a digit in either case. -/
def hexValue? (c : Char) : Option Nat :=
  let code := c.toNat
  if 48 ≤ code ∧ code ≤ 57 then some (code - 48)
  else if 97 ≤ code ∧ code ≤ 102 then some (code - 87)
  else if 65 ≤ code ∧ code ≤ 70 then some (code - 55)
  else none

/-- The number that a row of hexadecimal digits writes. -/
def hexNumber? (cs : List Char) : Option Nat :=
  cs.foldlM (fun n c => (hexValue? c).map (16 * n + ·)) 0

end Text
end VideoBundle
