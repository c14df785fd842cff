/-!
# Ranges of code points

Character classes are kept as lists of closed ranges of code points.
-/

namespace VideoBundle
namespace Text

/-- A character class: closed ranges of code points. -/
abbrev CodeRanges := List (Nat × Nat)

/-- Whether a code point lies in one of the ranges. -/
def CodeRanges.contains (ranges : CodeRanges) (code : Nat) : Bool :=
  ranges.any fun range => range.1 ≤ code && code ≤ range.2

end Text
end VideoBundle
