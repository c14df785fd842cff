import VideoBundle.Text.CaseTable

/-!
# Letter case

Lowercase and uppercase forms of a text.  A capital sigma becomes the final form at the end of a
word: when the nearest character before it that is not case-ignorable is cased, and the nearest such
character after it is not.
-/

namespace VideoBundle
namespace Text

/-- The image of a character under a case mapping: an expansion, else a shift, else itself. -/
def caseImage (shifts : List CaseShift) (expansions : List (Nat × List Nat)) (c : Char) :
    List Char :=
  match expansions.lookup c.toNat with
  | some codes => codes.map Char.ofNat
  | none =>
      match shifts.find? (·.applies c.toNat) with
      | some shift => [Char.ofNat ((c.toNat : Int) + shift.distance).toNat]
      | none => [c]

/-- Whether the nearest character that is not case-ignorable is cased. -/
def startsCased : List Char → Bool
  | [] => false
  | c :: cs =>
      if caseIgnorableRanges.contains c.toNat then startsCased cs
      else casedRanges.contains c.toNat

/-- Lowercase a text whose preceding characters, nearest first, are `before`. -/
def lowerAfter (before : List Char) : List Char → List Char
  | [] => []
  | c :: cs =>
      (if c = 'Σ' then
        [if startsCased before && !startsCased cs then 'ς' else 'σ']
      else caseImage lowerShifts lowerExpansions c) ++ lowerAfter (c :: before) cs

/-- The lowercase form of a text. -/
def lower (cs : List Char) : List Char :=
  lowerAfter [] cs

/-- The uppercase form of a text. -/
def upper (cs : List Char) : List Char :=
  cs.flatMap (caseImage upperShifts upperExpansions)

end Text

/-- The lowercase form of a text. -/
def lowerText (s : String) : String :=
  String.ofList (Text.lower s.toList)

/-- The uppercase form of a text. -/
def upperText (s : String) : String :=
  String.ofList (Text.upper s.toList)

end VideoBundle
