import VideoBundle.Text.Blank
import VideoBundle.Text.Search

/-!
# Comment lines

A comment line holds two slashes behind blanks.  The blanks may span lines, so that empty lines in
front of a comment go with it.  Code is blank when nothing but blanks is left without its comment
lines.
-/

namespace VideoBundle
namespace Comments

open Text

/-- The number of characters of blanks and a comment up to the end of its line. -/
def commentLength? (cs : List Char) : Option Nat :=
  let rest := stripLeft cs
  if "//".toList.isPrefixOf rest then
    some (cs.length - rest.length + (rest.takeWhile (· != '\n')).length)
  else none

/-- The text without comment lines; `skip` characters belong to the comment before, and `lineStart`
tells whether a line starts here. -/
def removeFrom : (skip : Nat) → (lineStart : Bool) → List Char → List Char
  | _, _, [] => []
  | skip + 1, _, c :: cs => removeFrom skip (c = '\n') cs
  | 0, false, c :: cs => c :: removeFrom 0 (c = '\n') cs
  | 0, true, c :: cs =>
      match commentLength? (c :: cs) with
      | some length => removeFrom (length - 1) (c = '\n') cs
      | none => c :: removeFrom 0 (c = '\n') cs

/-- The text without comment lines. -/
def remove (code : List Char) : List Char :=
  removeFrom 0 true code

/-- Whether code holds nothing but blanks and comment lines. -/
def isBlankCode (code : String) : Bool :=
  isBlankText (remove code.toList)

end Comments
end VideoBundle
