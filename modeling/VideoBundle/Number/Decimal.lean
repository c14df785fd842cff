import VideoBundle.Number.Binary64

/-!
# Shortest decimals

A decimal is a natural times a power of ten.  Of the decimals that round to a given binary number,
`Magnitude.shortest` takes one with the fewest digits, and of those the nearest.

Main results:

- `shortest_reads_back`: the chosen decimal rounds to the number it was chosen for.
-/

namespace VideoBundle

/-- A decimal number, `digits * 10 ^ exponent`. -/
structure Decimal where
  digits : Nat
  exponent : Int
deriving DecidableEq, Repr

namespace Decimal

/-- Number of decimal digits of a natural; zero has one. -/
def width (n : Nat) : Nat := (Nat.toDigits 10 n).length

/-- Numerator of the exact value. -/
def numerator (d : Decimal) : Nat := d.digits * Nat.pow 10 d.exponent.toNat

/-- Denominator of the exact value. -/
def denominator (d : Decimal) : Nat := Nat.pow 10 (-d.exponent).toNat

/-- The binary number nearest to a decimal.  Exponents far outside the range of the format are
decided by the size of the decimal alone. -/
def toBinary64 (negative : Bool) (d : Decimal) : Binary64 :=
  let size : Int := width d.digits + d.exponent
  if d.digits = 0 ∨ size < -400 then .finite negative Magnitude.zero
  else if 400 < size then .infinite negative
  else Binary64.ofRatio negative d.numerator d.denominator

end Decimal

namespace Magnitude

/-- Whether a decimal rounds to a magnitude. -/
def readsBack (m : Magnitude) (d : Decimal) : Bool :=
  decide (d.toBinary64 false = .finite false m)

/-- The least `k` with the magnitude below `10 ^ k`. -/
def decimalPoint (m : Magnitude) : Int :=
  let guess : Int := Decimal.width m.numerator - Decimal.width m.denominator
  if m.denominator * Nat.pow 10 guess.toNat ≤ m.numerator * Nat.pow 10 (-guess).toNat then
    guess + 1
  else guess

/-- The two neighbours of a magnitude among the decimals with a given exponent, nearer one first; of
two equally near ones the even one comes first. -/
def neighbours (m : Magnitude) (exponent : Int) : List Decimal :=
  let num := m.numerator * Nat.pow 10 (-exponent).toNat
  let den := m.denominator * Nat.pow 10 exponent.toNat
  let below : Decimal := ⟨num / den, exponent⟩
  let above : Decimal := ⟨num / den + 1, exponent⟩
  if num % den = 0 then [below]
  else if roundHalfEven num den = num / den then [below, above] else [above, below]

/-- The decimal with the exact value of a magnitude. -/
def exactDecimal (m : Magnitude) : Decimal :=
  ⟨m.numerator * Nat.pow 5 (-m.exponent).toNat, min m.exponent 0⟩

/-- The decimals tried for a magnitude: its neighbours with one digit, two digits, and so on up to
seventeen. -/
def candidates (m : Magnitude) : List Decimal :=
  (List.range 17).flatMap fun n : Nat => m.neighbours (m.decimalPoint - (n + 1 : Nat))

/-- A decimal with the fewest digits that rounds to the magnitude, and the nearest of those. -/
def shortest (m : Magnitude) : Decimal :=
  (m.candidates.find? m.readsBack).getD m.exactDecimal

/-- A candidate that is chosen rounds to the magnitude it was chosen for. -/
theorem shortest_reads_back (m : Magnitude) (h : (m.candidates.find? m.readsBack).isSome = true) :
    m.shortest.toBinary64 false = .finite false m := by
  obtain ⟨d, hd⟩ := Option.isSome_iff_exists.1 h
  have := List.find?_some hd
  simpa [shortest, hd, readsBack] using this

end Magnitude
end VideoBundle
