import VideoBundle.Text.Printable
import VideoBundle.Text.Hex

/-!
# Quoted display of a text

A quoted text stands between apostrophes, or between double quotes when it holds an apostrophe and
no double quote.  The quote in use, the backslash, tab, line feed and carriage return are written
with a backslash; other characters that are not printable are written by their code point.
-/

namespace VideoBundle
namespace Text

/-- The quote that encloses a displayed text. -/
def quoteFor (cs : List Char) : Char :=
  if cs.contains '\'' && !cs.contains '"' then '"' else '\''

/-- One character inside a quoted display. -/
def quotedChar (quote c : Char) : List Char :=
  if c = quote ∨ c = '\\' then ['\\', c]
  else if c = '\t' then ['\\', 't']
  else if c = '\n' then ['\\', 'n']
  else if c = '\r' then ['\\', 'r']
  else if isPrintable c then [c]
  else if c.toNat < 0x100 then '\\' :: 'x' :: hexNumeral lowerHex 2 c.toNat
  else if c.toNat < 0x10000 then '\\' :: 'u' :: hexNumeral lowerHex 4 c.toNat
  else '\\' :: 'U' :: hexNumeral lowerHex 8 c.toNat

/-- The quoted display of a text. -/
def quoted (cs : List Char) : List Char :=
  let quote := quoteFor cs
  quote :: cs.flatMap (quotedChar quote) ++ [quote]

end Text

/-- The quoted display of a string. -/
def quotedText (s : String) : String :=
  String.ofList (Text.quoted s.toList)

end VideoBundle
