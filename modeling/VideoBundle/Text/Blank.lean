import VideoBundle.Text.CodeRanges

/-!
# Blank characters

Blanks are the white space and separator characters of Unicode 14.0 together with the four
information separators of ASCII.  The module trims blanks from either end of a text.
-/

namespace VideoBundle
namespace Text

/-- Code points that separate words. -/
def blankRanges : CodeRanges :=
  [(0x9, 0xD), (0x1C, 0x20), (0x85, 0x85), (0xA0, 0xA0), (0x1680, 0x1680), (0x2000, 0x200A),
   (0x2028, 0x2029), (0x202F, 0x202F), (0x205F, 0x205F), (0x3000, 0x3000)]

/-- Whether a character is blank. -/
def isBlank (c : Char) : Bool :=
  blankRanges.contains c.toNat

/-- The characters after the leading ones that satisfy `p`, from the right. -/
def dropRightWhile (p : Char → Bool) (cs : List Char) : List Char :=
  (cs.reverse.dropWhile p).reverse

/-- The text without its trailing blanks. -/
def stripRight (cs : List Char) : List Char :=
  dropRightWhile isBlank cs

/-- The text without its leading blanks. -/
def stripLeft (cs : List Char) : List Char :=
  cs.dropWhile isBlank

/-- The text without blanks at either end. -/
def strip (cs : List Char) : List Char :=
  stripRight (stripLeft cs)

/-- Whether a text is empty or blank throughout. -/
def isBlankText (cs : List Char) : Bool :=
  cs.all isBlank

end Text

/-- The text without blanks at either end. -/
def stripText (s : String) : String :=
  String.ofList (Text.strip s.toList)

end VideoBundle
