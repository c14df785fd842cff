/-!
# Sixty-four bit binary numbers

Numbers of the 64-bit binary format as exact values: not a number, the two infinities, and signed
finite numbers.  A finite magnitude is a significand times a power of two in its one canonical form.
`Binary64.ofRatio` rounds a quotient of naturals to the nearest number, a tie to the even significand;
every other operation is exact arithmetic followed by that one rounding.
-/

namespace VideoBundle

/-- Canonical form of a finite magnitude: at most 53 bits, and fewer only at the least exponent. -/
def Canonical (significand : Nat) (exponent : Int) : Prop :=
  significand < Nat.pow 2 53 ∧ exponent ≤ 971 ∧
    (exponent = -1074 ∨ (-1074 < exponent ∧ Nat.pow 2 52 ≤ significand))

instance (significand : Nat) (exponent : Int) : Decidable (Canonical significand exponent) := by
  unfold Canonical
  infer_instance

/-- A finite magnitude, `significand * 2 ^ exponent`. -/
structure Magnitude where
  significand : Nat
  exponent : Int
  canonical : Canonical significand exponent
deriving DecidableEq

/-- A number of the 64-bit binary format. -/
inductive Binary64 where
  | nan
  | infinite (negative : Bool)
  | finite (negative : Bool) (magnitude : Magnitude)
deriving DecidableEq

/-- The quotient rounded to the nearest natural, a tie to the even one. -/
def roundHalfEven (num den : Nat) : Nat :=
  let quotient := num / den
  let twice := 2 * (num % den)
  if twice < den then quotient
  else if den < twice then quotient + 1
  else if quotient % 2 = 0 then quotient else quotient + 1

/-- A rounded quotient differs from the exact one by at most half. -/
theorem roundHalfEven_close (num den : Nat) (h : 0 < den) :
    2 * num ≤ (2 * roundHalfEven num den + 1) * den ∧
      (2 * roundHalfEven num den) * den ≤ 2 * num + den := by
  have hdiv := Nat.div_add_mod num den
  have hmod := Nat.mod_lt num h
  generalize hq : num / den = q at hdiv
  generalize hr : num % den = r at hdiv hmod
  have hnum : num = den * q + r := hdiv.symm
  have hround : roundHalfEven num den = q ∧ 2 * r ≤ den ∨
      roundHalfEven num den = q + 1 ∧ den ≤ 2 * r := by
    simp only [roundHalfEven, hq, hr]
    split
    · left; omega
    · split
      · right; omega
      · split
        · left; omega
        · right; omega
  rcases hround with ⟨hval, hle⟩ | ⟨hval, hle⟩ <;> rw [hval, hnum]
  · constructor <;> grind
  · constructor <;> grind

namespace Magnitude

/-- The magnitude zero. -/
def zero : Magnitude := ⟨0, -1074, by decide⟩

/-- Numerator of the exact value. -/
def numerator (m : Magnitude) : Nat := m.significand * Nat.pow 2 m.exponent.toNat

/-- Denominator of the exact value. -/
def denominator (m : Magnitude) : Nat := Nat.pow 2 (-m.exponent).toNat

/-- The denominator is positive. -/
theorem denominator_pos (m : Magnitude) : 0 < m.denominator :=
  Nat.two_pow_pos _

/-- The whole part of the exact value. -/
def truncate (m : Magnitude) : Nat := m.numerator / m.denominator

/-- Whether the exact value is whole. -/
def isWhole (m : Magnitude) : Bool := m.numerator % m.denominator == 0

end Magnitude

namespace Binary64

/-- The exponent at which a positive quotient has a whole part of 53 bits. -/
def scaleExponent (num den : Nat) : Int :=
  let guess : Int := (num.log2 : Int) - den.log2 - 53
  if den * Nat.pow 2 guess.toNat * Nat.pow 2 53 ≤ num * Nat.pow 2 (-guess).toNat then guess + 1
  else guess

/-- The number nearest to a quotient with a positive denominator.  A quotient that rounds beyond the
largest magnitude becomes infinite. -/
def ofRatio (negative : Bool) (num den : Nat) : Binary64 :=
  if num = 0 then
    finite negative Magnitude.zero
  else
    let exponent := max (-1074) (scaleExponent num den)
    let rounded := roundHalfEven (num * Nat.pow 2 (-exponent).toNat) (den * Nat.pow 2 exponent.toNat)
    let significand := if rounded = Nat.pow 2 53 then Nat.pow 2 52 else rounded
    let exponent := if rounded = Nat.pow 2 53 then exponent + 1 else exponent
    if h : Canonical significand exponent then
      finite negative ⟨significand, exponent, h⟩
    else
      infinite negative

/-- Whether a number is finite. -/
def isFinite : Binary64 → Bool
  | finite _ _ => true
  | _ => false

/-- Whether a number is less than or equal to zero; not a number is not. -/
def isNonpositive : Binary64 → Bool
  | nan => false
  | infinite negative => negative
  | finite negative m => negative || m.significand == 0

/-- Whether a number is zero. -/
def isZero : Binary64 → Bool
  | finite _ m => m.significand == 0
  | _ => false

/-- The exact integer value of a whole number. -/
def whole? : Binary64 → Option Int
  | finite negative m =>
      if m.isWhole then some (if negative then -(m.truncate : Int) else m.truncate) else none
  | _ => none

/-- The quotient of two numbers, rounded once.  Division by zero gives an infinity or not a number. -/
def divide : Binary64 → Binary64 → Binary64
  | nan, _ => nan
  | _, nan => nan
  | infinite _, infinite _ => nan
  | infinite a, finite b _ => infinite (a != b)
  | finite a _, infinite b => finite (a != b) Magnitude.zero
  | finite a m, finite b n =>
      if n.significand = 0 then
        if m.significand = 0 then nan else infinite (a != b)
      else
        ofRatio (a != b) (m.significand * Nat.pow 2 (m.exponent - n.exponent).toNat)
          (n.significand * Nat.pow 2 (n.exponent - m.exponent).toNat)

end Binary64
end VideoBundle
