import VideoBundle.Bytes.Utf8
import VideoBundle.Text.Hex

/-!
# Percent encoding

Letters, digits and `_.-~` of ASCII stand for themselves; every other byte is written as a percent
sign and two uppercase hexadecimal digits.
-/

namespace VideoBundle
namespace Percent

/-- Whether a byte stands for itself. -/
def isUnreserved (b : UInt8) : Bool :=
  let n := b.toNat
  (48 ≤ n && n ≤ 57) || (65 ≤ n && n ≤ 90) || (97 ≤ n && n ≤ 122) ||
    n == 95 || n == 46 || n == 45 || n == 126

/-- The characters of one byte. -/
def encodeByte (b : UInt8) : List Char :=
  if isUnreserved b then [Char.ofNat b.toNat] else '%' :: Text.hexNumeral Text.upperHex 2 b.toNat

/-- The percent encoding of a text's UTF-8 bytes. -/
def encodeText (cs : List Char) : List Char :=
  (Utf8.encode cs).flatMap encodeByte

/-- The bytes that a text in percent encoding stands for: a percent sign takes two digits along, and
every other character is one of ASCII and stands for itself. -/
def decode? : List Char → Option (List UInt8)
  | [] => some []
  | c :: cs =>
      if c = '%' then
        match cs with
        | high :: low :: cs => do
            let n ← Text.hexNumber? [high, low]
            let bytes ← decode? cs
            return UInt8.ofNat n :: bytes
        | _ => none
      else if c.toNat < 0x80 then (decode? cs).map (UInt8.ofNat c.toNat :: ·)
      else none

end Percent
end VideoBundle
