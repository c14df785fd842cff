import VideoBundle.Text.WordTable

/-!
# Word characters and decimal digits

A word character is a letter, a numeric character or the underscore.  A decimal digit has a value
below ten, in whatever script it is written.
-/

namespace VideoBundle
namespace Text

/-- Whether a character can stand inside a word. -/
def isWordChar (c : Char) : Bool :=
  wordRanges.contains c.toNat

/-- The value of a decimal digit of any script. -/
def digitValue? (c : Char) : Option Nat :=
  (digitRanges.find? fun range => range.1 ≤ c.toNat && c.toNat ≤ range.2).map fun range =>
    (c.toNat - range.1) % 10

/-- Whether a character is a decimal digit of any script. -/
def isDecimalDigit (c : Char) : Bool :=
  (digitValue? c).isSome

/-- The number that a row of decimal digits writes; other characters count as nothing. -/
def digitsValue (cs : List Char) : Nat :=
  cs.foldl (fun n c => 10 * n + (digitValue? c).getD 0) 0

end Text
end VideoBundle
