import VideoBundle.Number.Numeral

/-!
# Errors of JSON texts

A malformed text is reported with the place where reading stopped; an integer with too many digits
has no place.
-/

namespace VideoBundle
namespace Json

/-- What is wrong with a malformed text. -/
inductive Problem where
  | byteOrderMark
  | expectingValue
  | expectingKey
  | expectingColon
  | expectingComma
  | unterminatedText
  | controlCharacter
  | badEscape
  | badUnicodeEscape
  | extraData
deriving DecidableEq, Repr

/-- The wording of a problem. -/
def Problem.message : Problem → String
  | .byteOrderMark => "Unexpected UTF-8 BOM (decode using utf-8-sig)"
  | .expectingValue => "Expecting value"
  | .expectingKey => "Expecting property name enclosed in double quotes"
  | .expectingColon => "Expecting ':' delimiter"
  | .expectingComma => "Expecting ',' delimiter"
  | .unterminatedText => "Unterminated string starting at"
  | .controlCharacter => "Invalid control character at"
  | .badEscape => "Invalid \\escape"
  | .badUnicodeEscape => "Invalid \\uXXXX escape"
  | .extraData => "Extra data"

/-- A malformed text with the place of the problem: the characters before it, its line and its column,
the last two counted from one. -/
structure Malformed where
  problem : Problem
  offset : Nat
  line : Nat
  column : Nat
deriving DecidableEq, Repr

/-- The place `offset` characters into a text. -/
def Malformed.locate (source : List Char) (problem : Problem) (offset : Nat) : Malformed :=
  let before := source.take offset
  ⟨problem, offset, before.count '\n' + 1, (before.reverse.takeWhile (· != '\n')).length + 1⟩

/-- Why a text cannot be read. -/
inductive Error where
  | malformed (m : Malformed)
  | tooManyDigits (e : TooManyDigits)
deriving DecidableEq, Repr

/-- The wording of an error. -/
def Error.message : Error → String
  | .malformed m =>
      m.problem.message ++ ": line " ++ toString m.line ++ " column " ++ toString m.column ++
        " (char " ++ toString m.offset ++ ")"
  | .tooManyDigits e => e.message

end Json
end VideoBundle
