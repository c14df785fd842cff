import VideoBundle.Text.PrintableTable

/-!
# Printable characters
-/

namespace VideoBundle
namespace Text

/-- Whether a quoted text shows the character as itself. -/
def isPrintable (c : Char) : Bool :=
  printableRanges.contains c.toNat

end Text
end VideoBundle
