import VideoBundle.Number.Numeral

/-!
# Numbers

A number is an exact integer or a binary number.  Dividing two integers rounds their exact quotient
once; as soon as one operand is binary the other is converted first.
-/

namespace VideoBundle

/-- An integer of any size or a binary number. -/
inductive Number where
  | int (n : Int)
  | float (x : Binary64)
deriving DecidableEq

/-- Why an operation on numbers has no result. -/
inductive NumberError where
  /-- An integer rounds beyond the largest binary number. -/
  | integerTooLarge
  /-- A quotient of integers rounds beyond the largest binary number. -/
  | quotientTooLarge
  | divisionByZero
deriving DecidableEq, Repr

/-- The wording of a number error. -/
def NumberError.message : NumberError → String
  | .integerTooLarge => "int too large to convert to float"
  | .quotientTooLarge => "integer division result too large for a float"
  | .divisionByZero => "division by zero"

namespace Number

/-- The binary number nearest to an integer. -/
def floatOfInt (n : Int) : Except NumberError Binary64 :=
  let x := Binary64.ofRatio (n < 0) n.natAbs 1
  if x.isFinite then .ok x else .error .integerTooLarge

/-- The binary number nearest to a number. -/
def toFloat : Number → Except NumberError Binary64
  | int n => floatOfInt n
  | float x => .ok x

/-- Whether a number is finite; an integer that has no nearest binary number is an error. -/
def isFinite : Number → Except NumberError Bool
  | int n => (floatOfInt n).map fun _ => true
  | float x => .ok x.isFinite

/-- Whether a number is less than or equal to zero. -/
def isNonpositive : Number → Bool
  | int n => n ≤ 0
  | float x => x.isNonpositive

/-- The quotient of two numbers as a binary number. -/
def divide : Number → Number → Except NumberError Binary64
  | int a, int b =>
      if b = 0 then .error .divisionByZero
      else
        let x := Binary64.ofRatio ((a < 0) != (b < 0)) a.natAbs b.natAbs
        if x.isFinite then .ok x else .error .quotientTooLarge
  | a, b => do
      let x ← a.toFloat
      let y ← b.toFloat
      if y.isZero then .error .divisionByZero else .ok (x.divide y)

/-- Whether a number has few enough digits to be written. -/
def isWritable : Number → Bool
  | int n => Decimal.width n.natAbs ≤ maxIntegerDigits
  | float _ => true

/-- The written form of a number. -/
def display : Number → List Char
  | int n => integerDigits n
  | float x => x.numeral

/-- The written form of a number, with a whole binary number written as an integer. -/
def displayShort : Number → List Char
  | int n => integerDigits n
  | float x =>
      match x.whole? with
      | some n => integerDigits n
      | none => x.numeral

end Number
end VideoBundle
