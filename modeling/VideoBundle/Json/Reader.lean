import VideoBundle.Json.Error
import VideoBundle.Value.Basic
import VideoBundle.Text.Points
import VideoBundle.Text.Hex
import VideoBundle.Text.Search

/-!
# Reading JSON texts

The reader accepts the JSON grammar with the names `NaN`, `Infinity` and `-Infinity` as numbers.  Of
several entries under one key the last value counts, at the place of the first.  An escape can write half
of a surrogate pair, and the source can hold such halves itself.  Two escapes that write a lead and a
trail are joined to one character; a half that the source holds is joined with nothing.

Readers return the value and the rest of the text.  A fault carries the rest at which it stands; the
place is computed from its length at the end.  In what form texts are returned is left to the reader of
texts: as code points, or as units where the source is a string.
-/

namespace VideoBundle
namespace Json

/-- A fault during reading. -/
inductive Fault where
  /-- A problem in front of the last `remaining` characters. -/
  | malformed (problem : Problem) (remaining : Nat)
  | tooManyDigits (e : TooManyDigits)
deriving DecidableEq, Repr

/-- A problem at the start of a rest. -/
def Fault.at (problem : Problem) (rest : List Char) : Fault :=
  .malformed problem rest.length

/-- Whether a character may stand between tokens. -/
def isSpace (c : Char) : Bool := c = ' ' || c = '\t' || c = '\n' || c = '\r'

/-- A text without leading space. -/
def skipSpace (cs : List Char) : List Char := cs.dropWhile isSpace

/-- The unit written by a backslash and one letter. -/
def shortEscape? : Char → Option UInt16
  | '"' => some 0x22
  | '\\' => some 0x5C
  | '/' => some 0x2F
  | 'b' => some 0x8
  | 'f' => some 0xC
  | 'n' => some 0xA
  | 'r' => some 0xD
  | 't' => some 0x9
  | _ => none

/-- What is read of a text: the escapes at its start, as units with which an escape in front of them may
still be joined, and the code points behind them. -/
structure TextParts where
  escapes : UnitText
  points : PointText
deriving DecidableEq

namespace TextParts

/-- The code points of the text. -/
def text (t : TextParts) : PointText := t.escapes.points ++ t.points

/-- The units of the text. -/
def units (t : TextParts) : UnitText := t.escapes ++ t.points.units

/-- The text with an escape in front of it. -/
def addEscape (u : UInt16) (t : TextParts) : TextParts := ⟨u :: t.escapes, t.points⟩

/-- The text with a code point of the source in front of it. -/
def addPoint (p : Point) (t : TextParts) : TextParts := ⟨[], p :: t.text⟩

end TextParts

/-- Read a text behind its opening quote, which stands in front of the last `opening` characters.  The
characters are what the source shows; `halfBefore?` tells which of them stand for halves of pairs. -/
def readText (halfBefore? : Nat → Option Half) (opening : Nat) :
    List Char → Except Fault (TextParts × List Char)
  | [] => .error (.malformed .unterminatedText opening)
  | '"' :: cs => .ok (⟨[], []⟩, cs)
  | ['\\'] => .error (.malformed .unterminatedText opening)
  | '\\' :: 'u' :: a :: b :: c :: d :: e :: cs =>
      match Text.hexNumber? [a, b, c, d] with
      | some n =>
          match readText halfBefore? opening (e :: cs) with
          | .ok (t, rest) => .ok (t.addEscape (UInt16.ofNat n), rest)
          | .error fault => .error fault
      | none => .error (.at .badUnicodeEscape ('u' :: a :: b :: c :: d :: e :: cs))
  | '\\' :: 'u' :: cs => .error (.at .badUnicodeEscape ('u' :: cs))
  | '\\' :: c :: cs =>
      match shortEscape? c with
      | some u =>
          match readText halfBefore? opening cs with
          | .ok (t, rest) => .ok (t.addEscape u, rest)
          | .error fault => .error fault
      | none => .error (.at .badEscape ('\\' :: c :: cs))
  | c :: cs =>
      if c.toNat < 0x20 then .error (.at .controlCharacter (c :: cs))
      else
        match readText halfBefore? opening cs with
        | .ok (t, rest) => .ok (t.addPoint (((halfBefore? cs.length).map .half).getD (.char c)), rest)
        | .error fault => .error fault

/-- Read a text of a string as units. -/
def readUnits (opening : Nat) (cs : List Char) : Except Fault (UnitText × List Char) :=
  (readText (fun _ => none) opening cs).map fun found => (found.1.units, found.2)

/-- Read a text of a source of code points as code points. -/
def readPointText (source : PointText) (opening : Nat) (cs : List Char) :
    Except Fault (PointText × List Char) :=
  (readText source.halfBefore? opening cs).map fun found => (found.1.text, found.2)

section Values

variable {τ : Type} [DecidableEq τ]

/-- The words that stand for values. -/
def words : List (List Char × Value τ) :=
  [("null".toList, .null), ("true".toList, .bool true), ("false".toList, .bool false),
   ("NaN".toList, .number (.float .nan)),
   ("Infinity".toList, .number (.float (.infinite false))),
   ("-Infinity".toList, .number (.float (.infinite true)))]

/-- Read a word or a numeral. -/
def readScalar (cs : List Char) : Except Fault (Value τ × List Char) :=
  match words.findSome? fun word : List Char × Value τ =>
      (Text.afterLead? word.1 cs).map (word.2, ·) with
  | some found => .ok found
  | none =>
      match Numeral.scan? cs with
      | none => .error (.at .expectingValue cs)
      | some (n, rest) =>
          if n.isInteger then
            match n.toInt with
            | .ok i => .ok (.number (.int i), rest)
            | .error e => .error (.tooManyDigits e)
          else .ok (.number (.float n.toBinary64), rest)

variable (readTexts : (opening : Nat) → List Char → Except Fault (τ × List Char))

mutual

/-- Read a value; `fuel` bounds the number of calls. -/
def readValue : (fuel : Nat) → List Char → Except Fault (Value τ × List Char)
  | 0, cs => .error (.at .expectingValue cs)
  | fuel + 1, cs =>
      match cs with
      | '"' :: rest =>
          match readTexts cs.length rest with
          | .ok (t, rest) => .ok (.text t, rest)
          | .error fault => .error fault
      | '[' :: rest =>
          match skipSpace rest with
          | ']' :: rest => .ok (.list [], rest)
          | rest =>
              match readItems fuel rest with
              | .ok (items, rest) => .ok (.list items, rest)
              | .error fault => .error fault
      | '{' :: rest =>
          match skipSpace rest with
          | '}' :: rest => .ok (.object [], rest)
          | rest =>
              match readEntries fuel rest with
              | .ok (entries, rest) => .ok (.object (collapseEntries entries), rest)
              | .error fault => .error fault
      | _ => readScalar cs

/-- Read the items of a list up to its closing bracket. -/
def readItems : (fuel : Nat) → List Char → Except Fault (List (Value τ) × List Char)
  | 0, cs => .error (.at .expectingValue cs)
  | fuel + 1, cs =>
      match readValue fuel cs with
      | .error fault => .error fault
      | .ok (item, rest) =>
          match skipSpace rest with
          | ']' :: rest => .ok ([item], rest)
          | ',' :: rest =>
              match readItems fuel (skipSpace rest) with
              | .ok (items, rest) => .ok (item :: items, rest)
              | .error fault => .error fault
          | rest => .error (.at .expectingComma rest)

/-- Read the entries of an object up to its closing brace. -/
def readEntries : (fuel : Nat) → List Char → Except Fault (List (τ × Value τ) × List Char)
  | 0, cs => .error (.at .expectingKey cs)
  | fuel + 1, cs =>
      match cs with
      | '"' :: rest =>
          match readTexts cs.length rest with
          | .error fault => .error fault
          | .ok (key, rest) =>
              match skipSpace rest with
              | ':' :: rest =>
                  match readValue fuel (skipSpace rest) with
                  | .error fault => .error fault
                  | .ok (value, rest) =>
                      match skipSpace rest with
                      | '}' :: rest => .ok ([(key, value)], rest)
                      | ',' :: rest =>
                          match readEntries fuel (skipSpace rest) with
                          | .ok (entries, rest) => .ok ((key, value) :: entries, rest)
                          | .error fault => .error fault
                      | rest => .error (.at .expectingComma rest)
              | rest => .error (.at .expectingColon rest)
      | _ => .error (.at .expectingKey cs)

end

/-- Calls that suffice for a text: at most two for each character. -/
def fuelFor (cs : List Char) : Nat := 2 * cs.length + 2

/-- Read one value with space around it. -/
def readWhole (cs : List Char) : Except Fault (Value τ) :=
  match cs with
  | '\uFEFF' :: _ => .error (.at .byteOrderMark cs)
  | _ =>
      match readValue readTexts (fuelFor cs) (skipSpace cs) with
      | .error fault => .error fault
      | .ok (value, rest) =>
          match skipSpace rest with
          | [] => .ok value
          | rest => .error (.at .extraData rest)

/-- The value that a text writes. -/
def readWith (cs : List Char) : Except Error (Value τ) :=
  match readWhole readTexts cs with
  | .ok value => .ok value
  | .error (.malformed problem remaining) =>
      .error (.malformed (.locate cs problem (cs.length - remaining)))
  | .error (.tooManyDigits e) => .error (.tooManyDigits e)

end Values

/-- The value that characters write, with its texts as units. -/
def read (cs : List Char) : Except Error (Value UnitText) := readWith readUnits cs

/-- The value that code points write, with its texts as code points. -/
def readPoints (ps : PointText) : Except Error (Value PointText) :=
  readWith (readPointText ps) (ps.map Point.shown)

/-- The value that a string writes, with its texts as strings.  These cannot hold half of a surrogate pair
that stands alone, so that they show the replacement character for what an escape of one writes. -/
def decode (s : String) : Except Error (Value String) :=
  (read s.toList).map (·.mapText UnitText.toText)

end Json
end VideoBundle
