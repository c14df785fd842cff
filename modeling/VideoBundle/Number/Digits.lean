import VideoBundle.Number.Numeral
import VideoBundle.Text.Blank
import VideoBundle.Text.Quoted
import VideoBundle.Text.Word

/-!
# Integers in texts

Rows of decimal digits of any script, and integers as people write them: blanks around, perhaps a
sign, and digits that single underscores may divide.
-/

namespace VideoBundle

/-- The natural that a row of decimal digits writes. -/
def naturalOfDigits (ds : List Char) : Except TooManyDigits Nat :=
  if maxIntegerDigits < ds.length then .error ⟨some ds.length⟩ else .ok (Text.digitsValue ds)

/-- Why a text writes no integer. -/
inductive IntegerError where
  | notInteger (text : String)
  | tooManyDigits (e : TooManyDigits)
deriving DecidableEq, Repr

/-- The wording for a text that writes no integer. -/
def IntegerError.message : IntegerError → String
  | .notInteger text => "invalid literal for int() with base 10: " ++ quotedText text
  | .tooManyDigits e => e.message

/-- The digits of a row that single underscores may divide. -/
def dividedDigits? : List Char → Option (List Char)
  | [] => none
  | [c] => if Text.isDecimalDigit c then some [c] else none
  | c :: '_' :: cs => if Text.isDecimalDigit c then (dividedDigits? cs).map (c :: ·) else none
  | c :: cs => if Text.isDecimalDigit c then (dividedDigits? cs).map (c :: ·) else none

/-- The sign at the start of a text. -/
def splitSign : List Char → Bool × List Char
  | '-' :: cs => (true, cs)
  | '+' :: cs => (false, cs)
  | cs => (false, cs)

/-- The integer that a text writes. -/
def integerOfText (s : String) : Except IntegerError Int :=
  let (negative, unsigned) := splitSign (Text.strip s.toList)
  match dividedDigits? unsigned with
  | none => .error (.notInteger s)
  | some ds =>
      match naturalOfDigits ds with
      | .ok n => .ok (if negative then -(n : Int) else n)
      | .error e => .error (.tooManyDigits e)

end VideoBundle
