/-!
# Base64

Three bytes are written as four characters of a sixty-four letter alphabet; a shorter last group is
filled up with equals signs.
-/

namespace VideoBundle
namespace Base64

/-- The letters in the order of their values. -/
def alphabet : List Char :=
  "ABCDEFGHIJKLMNOPQRSTUVWXYZabcdefghijklmnopqrstuvwxyz0123456789+/".toList

/-- The letter of a value below sixty-four. -/
def letter (n : Nat) : Char :=
  alphabet.getD (n % 64) 'A'

/-- The letters of a list of bytes, a group of three at a time. -/
def encode : List UInt8 → List Char
  | [] => []
  | [a] =>
      let n := a.toNat * 16
      [letter (n / 64), letter n, '=', '=']
  | [a, b] =>
      let n := a.toNat * 1024 + b.toNat * 4
      [letter (n / 4096), letter (n / 64), letter n, '=']
  | a :: b :: c :: bs =>
      let n := a.toNat * 65536 + b.toNat * 256 + c.toNat
      letter (n / 262144) :: letter (n / 4096) :: letter (n / 64) :: letter n :: encode bs

/-- The value of a letter. -/
def value? (c : Char) : Option Nat :=
  let code := c.toNat
  if 65 ≤ code ∧ code ≤ 90 then some (code - 65)
  else if 97 ≤ code ∧ code ≤ 122 then some (code - 71)
  else if 48 ≤ code ∧ code ≤ 57 then some (code + 4)
  else if c = '+' then some 62
  else if c = '/' then some 63
  else none

/-- The bytes that letters write; the text falls into groups of four letters. -/
def decode? : List Char → Option (List UInt8)
  | [] => some []
  | [a, b, '=', '='] => do
      let n := (← value? a) * 64 + (← value? b)
      return [UInt8.ofNat (n / 16)]
  | [a, b, c, '='] => do
      let n := (← value? a) * 4096 + (← value? b) * 64 + (← value? c)
      return [UInt8.ofNat (n / 1024), UInt8.ofNat (n / 4)]
  | a :: b :: c :: d :: rest => do
      let n := (← value? a) * 262144 + (← value? b) * 4096 + (← value? c) * 64 + (← value? d)
      let bytes ← decode? rest
      return UInt8.ofNat (n / 65536) :: UInt8.ofNat (n / 256) :: UInt8.ofNat n :: bytes
  | _ => none

end Base64
end VideoBundle
