import VideoBundle.Number.Decimal

/-!
# Numerals

The written form of numbers: how a finite binary number is shown, and how a numeral is read.  A
numeral is a sign, whole digits, an optional fraction and an optional power of ten.  Numerals without
fraction and power are integers, and may have at most 4300 digits.
-/

namespace VideoBundle

/-- Decisions on the written form of binary numbers. -/
structure NumeralStyle where
  /-- Numbers from this power of ten on are written with an exponent. -/
  firstLargeExponent : Int
  /-- Numbers below this power of ten are written with an exponent. -/
  firstSmallExponent : Int
  /-- Least number of digits in an exponent. -/
  exponentWidth : Nat

/-- Numbers from 0.0001 up to 10 ^ 16 are positional; an exponent has a sign and two digits. -/
def NumeralStyle.standard : NumeralStyle := ⟨16, -4, 2⟩

/-- The decimal digits of a natural. -/
def decimalDigits (n : Nat) : List Char := Nat.toDigits 10 n

/-- The decimal digits of an integer behind its sign. -/
def integerDigits (n : Int) : List Char :=
  if n < 0 then '-' :: decimalDigits n.natAbs else decimalDigits n.natAbs

/-- A decimal with the trailing zeros of its digits moved into the exponent. -/
def significantDigits (d : Decimal) : List Char :=
  ((decimalDigits d.digits).reverse.dropWhile (· == '0')).reverse

/-- Digits `ds` with the decimal point at `point`, which may lie outside them. -/
def positional (ds : List Char) (point : Int) : List Char :=
  if point ≤ 0 then '0' :: '.' :: (List.replicate (-point).toNat '0' ++ ds)
  else
    let p := point.toNat
    if ds.length ≤ p then ds ++ List.replicate (p - ds.length) '0' ++ ['.', '0']
    else ds.take p ++ '.' :: ds.drop p

/-- Digits `ds` as one digit, a point and a power of ten. -/
def scientific (style : NumeralStyle) (ds : List Char) (exponent : Int) : List Char :=
  let digits := decimalDigits exponent.natAbs
  ds.take 1 ++ (if ds.length ≤ 1 then [] else '.' :: ds.drop 1) ++
    'e' :: (if exponent < 0 then '-' else '+') ::
      (List.replicate (style.exponentWidth - digits.length) '0' ++ digits)

/-- The written form of a magnitude. -/
def Magnitude.numeral (style : NumeralStyle) (m : Magnitude) : List Char :=
  if m.significand = 0 then ['0', '.', '0']
  else
    let d := m.shortest
    let ds := significantDigits d
    let point : Int := Decimal.width d.digits + d.exponent
    if style.firstSmallExponent ≤ point - 1 ∧ point - 1 < style.firstLargeExponent then
      positional ds point
    else
      scientific style ds (point - 1)

namespace Binary64

/-- The written form of a number: the fewest digits that read back. -/
def numeral : Binary64 → List Char
  | nan => "nan".toList
  | infinite negative => (if negative then "-inf" else "inf").toList
  | finite negative m =>
      (if negative then ['-'] else []) ++ m.numeral NumeralStyle.standard

/-- The exact value rounded to one decimal place, a tie to the even digit. -/
def oneDecimal : Binary64 → List Char
  | nan => "nan".toList
  | infinite negative => (if negative then "-inf" else "inf").toList
  | finite negative m =>
      let tenths := roundHalfEven (m.numerator * 10) m.denominator
      (if negative then ['-'] else []) ++
        decimalDigits (tenths / 10) ++ '.' :: decimalDigits (tenths % 10)

end Binary64

/-! ## Reading numerals -/

/-- Whether a character is a decimal digit of ASCII. -/
def isAsciiDigit (c : Char) : Bool := '0' ≤ c && c ≤ '9'

/-- The number that a row of ASCII digits writes. -/
def asciiDigitsValue (ds : List Char) : Nat :=
  ds.foldl (fun n d => 10 * n + (d.toNat - 48)) 0

/-- A numeral in its parts; digit rows are never empty. -/
structure Numeral where
  negative : Bool
  whole : List Char
  fraction : Option (List Char)
  /-- Whether the power of ten is negative, and its digits. -/
  power : Option (Bool × List Char)
deriving DecidableEq, Repr

/-- The fraction at the start of a text: a point and at least one digit. -/
def scanFraction (cs : List Char) : Option (List Char) × List Char :=
  match cs with
  | '.' :: rest =>
      let ds := rest.takeWhile isAsciiDigit
      if ds = [] then (none, cs) else (some ds, rest.dropWhile isAsciiDigit)
  | _ => (none, cs)

/-- The sign at the start of an exponent. -/
def scanSign (cs : List Char) : Bool × List Char :=
  match cs with
  | '-' :: rest => (true, rest)
  | '+' :: rest => (false, rest)
  | _ => (false, cs)

/-- The power of ten at the start of a text: `e` or `E`, perhaps a sign, at least one digit. -/
def scanPower (cs : List Char) : Option (Bool × List Char) × List Char :=
  match cs with
  | c :: rest =>
      if c = 'e' ∨ c = 'E' then
        let (negative, digits) := scanSign rest
        let ds := digits.takeWhile isAsciiDigit
        if ds = [] then (none, cs) else (some (negative, ds), digits.dropWhile isAsciiDigit)
      else (none, cs)
  | [] => (none, cs)

/-- The whole digits at the start of a text: a zero alone, or digits that start with another. -/
def scanWhole (cs : List Char) : List Char × List Char :=
  match cs with
  | '0' :: rest => (['0'], rest)
  | _ => (cs.takeWhile isAsciiDigit, cs.dropWhile isAsciiDigit)

/-- The numeral at the start of a text, with the rest of the text. -/
def Numeral.scan? (cs : List Char) : Option (Numeral × List Char) :=
  let (negative, unsigned) := match cs with
    | '-' :: rest => (true, rest)
    | _ => (false, cs)
  let (whole, afterWhole) := scanWhole unsigned
  if whole = [] then none
  else
    let (fraction, afterFraction) := scanFraction afterWhole
    let (power, rest) := scanPower afterFraction
    some (⟨negative, whole, fraction, power⟩, rest)

/-- Longest row of digits that is read as an integer or written for one. -/
def maxIntegerDigits : Nat := 4300

/-- An integer has too many digits to be read or written. -/
structure TooManyDigits where
  /-- The digits that were to be read; nothing for an integer that was to be written. -/
  count : Option Nat
deriving DecidableEq, Repr

/-- The wording for an integer with too many digits. -/
def TooManyDigits.message (e : TooManyDigits) : String :=
  "Exceeds the limit (" ++ toString maxIntegerDigits ++ " digits) for integer string conversion" ++
    (match e.count with
    | some count => ": value has " ++ toString count ++ " digits"
    | none => "") ++
    "; use sys.set_int_max_str_digits() to increase the limit"

/-- Whether a numeral writes an integer. -/
def Numeral.isInteger (n : Numeral) : Bool := n.fraction.isNone && n.power.isNone

/-- The integer that a numeral without fraction and power writes. -/
def Numeral.toInt (n : Numeral) : Except TooManyDigits Int :=
  if maxIntegerDigits < n.whole.length then .error ⟨some n.whole.length⟩
  else
    let value : Int := asciiDigitsValue n.whole
    .ok (if n.negative then -value else value)

/-- The decimal that the digits of a numeral write. -/
def Numeral.toDecimal (n : Numeral) : Decimal :=
  let fraction := n.fraction.getD []
  let power : Int := match n.power with
    | none => 0
    | some (negative, ds) =>
        if negative then -(asciiDigitsValue ds : Int) else asciiDigitsValue ds
  ⟨asciiDigitsValue (n.whole ++ fraction), power - fraction.length⟩

/-- The binary number nearest to a numeral. -/
def Numeral.toBinary64 (n : Numeral) : Binary64 := n.toDecimal.toBinary64 n.negative

/-- The binary number that a written form denotes. -/
def Binary64.ofNumeral? (cs : List Char) : Option Binary64 :=
  if cs = "nan".toList then some .nan
  else if cs = "inf".toList then some (.infinite false)
  else if cs = "-inf".toList then some (.infinite true)
  else
    match Numeral.scan? cs with
    | some (n, []) => some n.toBinary64
    | _ => none

end VideoBundle
