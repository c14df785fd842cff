/-!
# UTF-8

Encoding characters as bytes and decoding bytes with an exact account of what is wrong with them.
A faulty stretch is the longest start of a character that cannot be continued, or one byte that
starts nothing; lenient decoding writes one replacement character for each.
-/

namespace VideoBundle
namespace Utf8

/-- The bytes of one character. -/
def encodeChar (c : Char) : List UInt8 :=
  let n := c.toNat
  if n < 0x80 then [UInt8.ofNat n]
  else if n < 0x800 then [UInt8.ofNat (0xC0 + n / 0x40), UInt8.ofNat (0x80 + n % 0x40)]
  else if n < 0x10000 then
    [UInt8.ofNat (0xE0 + n / 0x1000), UInt8.ofNat (0x80 + n / 0x40 % 0x40),
     UInt8.ofNat (0x80 + n % 0x40)]
  else
    [UInt8.ofNat (0xF0 + n / 0x40000), UInt8.ofNat (0x80 + n / 0x1000 % 0x40),
     UInt8.ofNat (0x80 + n / 0x40 % 0x40), UInt8.ofNat (0x80 + n % 0x40)]

/-- The bytes of a text. -/
def encode (cs : List Char) : List UInt8 :=
  cs.flatMap encodeChar

/-- What is wrong with a stretch of bytes. -/
inductive Fault where
  | invalidStart
  | invalidContinuation
  | unexpectedEnd
deriving DecidableEq, Repr

/-- The wording of a fault. -/
def Fault.message : Fault → String
  | .invalidStart => "invalid start byte"
  | .invalidContinuation => "invalid continuation byte"
  | .unexpectedEnd => "unexpected end of data"

/-- The first thing in a byte list: a character with its width, or a fault with its width. -/
inductive Step where
  | char (c : Char) (width : Nat)
  | fault (f : Fault) (width : Nat)

/-- Whether a byte continues a character. -/
def isContinuation (b : Nat) : Bool :=
  0x80 ≤ b && b < 0xC0

/-- The character or fault that a first byte and the bytes after it begin with. -/
def step (first : Nat) (rest : List Nat) : Step :=
  if first < 0x80 then .char (Char.ofNat first) 1
  else if first < 0xC2 then .fault .invalidStart 1
  else if first < 0xE0 then
    match rest with
    | [] => .fault .unexpectedEnd 1
    | b :: _ =>
        if isContinuation b then .char (Char.ofNat ((first - 0xC0) * 0x40 + (b - 0x80))) 2
        else .fault .invalidContinuation 1
  else if first < 0xF0 then
    let fits (b : Nat) : Bool :=
      isContinuation b && (first != 0xE0 || 0xA0 ≤ b) && (first != 0xED || b < 0xA0)
    match rest with
    | [] => .fault .unexpectedEnd 1
    | [b] => if fits b then .fault .unexpectedEnd 2 else .fault .invalidContinuation 1
    | b :: c :: _ =>
        if !fits b then .fault .invalidContinuation 1
        else if !isContinuation c then .fault .invalidContinuation 2
        else
          .char (Char.ofNat ((first - 0xE0) * 0x1000 + (b - 0x80) * 0x40 + (c - 0x80))) 3
  else if first < 0xF5 then
    let fits (b : Nat) : Bool :=
      isContinuation b && (first != 0xF0 || 0x90 ≤ b) && (first != 0xF4 || b < 0x90)
    match rest with
    | [] => .fault .unexpectedEnd 1
    | [b] => if fits b then .fault .unexpectedEnd 2 else .fault .invalidContinuation 1
    | [b, c] =>
        if !fits b then .fault .invalidContinuation 1
        else if !isContinuation c then .fault .invalidContinuation 2
        else .fault .unexpectedEnd 3
    | b :: c :: d :: _ =>
        if !fits b then .fault .invalidContinuation 1
        else if !isContinuation c then .fault .invalidContinuation 2
        else if !isContinuation d then .fault .invalidContinuation 3
        else
          .char (Char.ofNat
            ((first - 0xF0) * 0x40000 + (b - 0x80) * 0x1000 + (c - 0x80) * 0x40 + (d - 0x80))) 4
  else .fault .invalidStart 1

/-- The first faulty stretch of a byte list. -/
structure DecodeError where
  /-- What is wrong. -/
  fault : Fault
  /-- Position of the first faulty byte. -/
  start : Nat
  /-- Number of faulty bytes, at least one. -/
  width : Nat
  /-- The first faulty byte. -/
  byte : UInt8
deriving DecidableEq, Repr

/-- Decode bytes; `skip` bytes belong to the character before, `offset` bytes are already read. -/
def decodeFrom : (skip offset : Nat) → List UInt8 → Except DecodeError (List Char)
  | _, _, [] => .ok []
  | skip + 1, offset, _ :: bs => decodeFrom skip (offset + 1) bs
  | 0, offset, b :: bs =>
      match step b.toNat ((bs.take 3).map UInt8.toNat) with
      | .char c width =>
          match decodeFrom (width - 1) (offset + 1) bs with
          | .ok cs => .ok (c :: cs)
          | .error e => .error e
      | .fault f width => .error ⟨f, offset, width, b⟩

/-- The text that bytes encode, or the first faulty stretch. -/
def decode (bs : List UInt8) : Except DecodeError (List Char) :=
  decodeFrom 0 0 bs

/-- Decode bytes with a replacement character for each faulty stretch; `skip` bytes belong to the
stretch before. -/
def decodeLenientFrom : (skip : Nat) → List UInt8 → List Char
  | _, [] => []
  | skip + 1, _ :: bs => decodeLenientFrom skip bs
  | 0, b :: bs =>
      match step b.toNat ((bs.take 3).map UInt8.toNat) with
      | .char c width => c :: decodeLenientFrom (width - 1) bs
      | .fault _ width => Char.ofNat 0xFFFD :: decodeLenientFrom (width - 1) bs

/-- The text that bytes encode, with a replacement character for each faulty stretch. -/
def decodeLenient (bs : List UInt8) : List Char :=
  decodeLenientFrom 0 bs

end Utf8
end VideoBundle
