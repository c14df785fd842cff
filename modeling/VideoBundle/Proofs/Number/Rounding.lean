import Mathlib.Algebra.Order.Field.Power
import Mathlib.Algebra.Order.Field.Rat
import Mathlib.Tactic.Linarith
import Mathlib.Tactic.NormNum
import Mathlib.Tactic.Ring
import VideoBundle.Number.Basic

/-!
# When rounding is finite

A quotient is scaled until its whole part has 53 bits, rounded, and kept if its exponent is in range.
The quotients that stay finite are those below the middle between the largest magnitude and the power
of two that would follow it.

Main results:

- `scaleExponent_bounds`: the scaled quotient has 53 bits.
- `isFinite_ofRatio_iff`: which quotients stay finite.
- `isZero_ofRatio`: a quotient of at least one does not become zero.
-/

namespace VideoBundle

/-! ## Rounding to naturals -/

/-- A quotient below a whole number is rounded to that number at most. -/
theorem roundHalfEven_le {num den bound : Nat} (hden : 0 < den) (h : num < bound * den) :
    roundHalfEven num den ≤ bound := by
  have hdiv : num / den < bound := (Nat.div_lt_iff_lt_mul hden).2 h
  simp only [roundHalfEven]
  split
  · omega
  · split
    · omega
    · split <;> omega

/-- A quotient of at least a whole number is rounded to that number at least. -/
theorem le_roundHalfEven {num den bound : Nat} (hden : 0 < den) (h : bound * den ≤ num) :
    bound ≤ roundHalfEven num den := by
  have hdiv : bound ≤ num / den := (Nat.le_div_iff_mul_le hden).2 h
  simp only [roundHalfEven]
  split
  · omega
  · split
    · omega
    · split <;> omega

/-- Below `bound + 1`, where `bound` is odd, the quotients from the middle on are rounded up. -/
theorem roundHalfEven_eq_succ_iff {num den bound : Nat} (hden : 0 < den) (hodd : bound % 2 = 1)
    (h : num < (bound + 1) * den) :
    roundHalfEven num den = bound + 1 ↔ (2 * bound + 1) * den ≤ 2 * num := by
  obtain ⟨hupper, hlower⟩ := roundHalfEven_close num den hden
  constructor
  · intro heq
    rw [heq] at hlower
    linarith
  · intro hhalf
    have hle := roundHalfEven_le hden h
    refine Nat.le_antisymm hle (Nat.lt_of_not_le fun hsmall => ?_)
    -- A result of at most `bound` is half a unit off, which makes it a tie with an odd quotient.
    have hbound : roundHalfEven num den = bound := by
      refine Nat.le_antisymm hsmall (Nat.le_of_not_lt fun hless => ?_)
      have : (2 * roundHalfEven num den + 1) * den < (2 * bound + 1) * den :=
        Nat.mul_lt_mul_of_pos_right (by omega) hden
      omega
    have htie : 2 * num = (2 * bound + 1) * den := by
      rw [hbound] at hupper
      omega
    have hquotient : num / den = bound := by
      refine Nat.div_eq_of_lt_le ?_ h
      linarith
    have hrest : 2 * (num % den) = den := by
      have := Nat.div_add_mod num den
      rw [hquotient] at this
      linarith
    rw [roundHalfEven, hquotient, hrest] at hbound
    simp [hodd] at hbound

/-! ## Scaling -/

/-- A power of two with an integer exponent, split into its two natural powers. -/
theorem pow_toNat_eq_mul (e : Int) :
    (2 : ℚ) ^ e.toNat = (2 : ℚ) ^ e * (2 : ℚ) ^ (-e).toNat := by
  rw [← zpow_natCast, ← zpow_natCast, ← zpow_add₀ two_ne_zero]
  congr 1
  omega

theorem two_zpow_pos (e : Int) : (0 : ℚ) < (2 : ℚ) ^ e := zpow_pos two_pos e

/-- Comparing a scaled quotient with a natural, without scaling. -/
theorem mul_scaled_le_iff (c num den : Nat) (e : Int) :
    c * (den * 2 ^ e.toNat) ≤ num * 2 ^ (-e).toNat ↔ (c : ℚ) * (2 : ℚ) ^ e * den ≤ num := by
  have hpos : (0 : ℚ) < (2 : ℚ) ^ (-e).toNat := by positivity
  rw [← Nat.cast_le (α := ℚ)]
  push_cast
  rw [pow_toNat_eq_mul e]
  have hleft : (c : ℚ) * (den * ((2 : ℚ) ^ e * (2 : ℚ) ^ (-e).toNat)) =
      (c : ℚ) * (2 : ℚ) ^ e * den * (2 : ℚ) ^ (-e).toNat := by ring
  rw [hleft]
  exact mul_le_mul_iff_of_pos_right hpos

/-- A positive natural between two powers of two. -/
theorem log2_bounds {n : Nat} (h : 0 < n) :
    (2 : ℚ) ^ (n.log2 : ℤ) ≤ n ∧ (n : ℚ) < (2 : ℚ) ^ ((n.log2 : ℤ) + 1) := by
  constructor
  · rw [zpow_natCast]
    exact_mod_cast Nat.log2_self_le h.ne'
  · rw [← Nat.cast_succ, zpow_natCast]
    exact_mod_cast Nat.lt_log2_self

namespace Binary64

/-- The scaled quotient has 53 bits. -/
theorem scaleExponent_bounds {num den : Nat} (hnum : 0 < num) (hden : 0 < den) :
    (2 : ℚ) ^ (52 + scaleExponent num den) * den ≤ num ∧
      (num : ℚ) < (2 : ℚ) ^ (53 + scaleExponent num den) * den := by
  obtain ⟨hnumLow, hnumHigh⟩ := log2_bounds hnum
  obtain ⟨hdenLow, hdenHigh⟩ := log2_bounds hden
  generalize hguess : (num.log2 : ℤ) - den.log2 - 53 = guess
  have hlow : (2 : ℚ) ^ (52 + guess) * den ≤ num := by
    calc (2 : ℚ) ^ (52 + guess) * den
        ≤ (2 : ℚ) ^ (52 + guess) * (2 : ℚ) ^ ((den.log2 : ℤ) + 1) :=
          mul_le_mul_of_nonneg_left hdenHigh.le (two_zpow_pos _).le
      _ = (2 : ℚ) ^ (num.log2 : ℤ) := by
          rw [← zpow_add₀ two_ne_zero]
          congr 1
          omega
      _ ≤ num := hnumLow
  have hhigh : (num : ℚ) < (2 : ℚ) ^ (54 + guess) * den := by
    calc (num : ℚ) < (2 : ℚ) ^ ((num.log2 : ℤ) + 1) := hnumHigh
      _ = (2 : ℚ) ^ (54 + guess) * (2 : ℚ) ^ (den.log2 : ℤ) := by
          rw [← zpow_add₀ two_ne_zero]
          congr 1
          omega
      _ ≤ (2 : ℚ) ^ (54 + guess) * den :=
          mul_le_mul_of_nonneg_left hdenLow (two_zpow_pos _).le
  have htest : den * Nat.pow 2 guess.toNat * Nat.pow 2 53 ≤ num * Nat.pow 2 (-guess).toNat ↔
      (2 : ℚ) ^ (53 + guess) * den ≤ num := by
    have := mul_scaled_le_iff (2 ^ 53) num den guess
    rw [Nat.mul_comm (2 ^ 53)] at this
    refine this.trans ?_
    rw [zpow_add₀ two_ne_zero]
    norm_cast
  simp only [scaleExponent, hguess]
  by_cases hcase : (2 : ℚ) ^ (53 + guess) * den ≤ num
  · rw [if_pos (htest.2 hcase)]
    exact ⟨by convert hcase using 3; omega, by convert hhigh using 3; omega⟩
  · rw [if_neg fun h => hcase (htest.1 h)]
    exact ⟨hlow, not_le.1 hcase⟩

/-- The least natural that does not round to a magnitude: half a unit above the largest one. -/
def overflowBound : Nat := (2 ^ 54 - 1) * 2 ^ 970

theorem overflowBound_pos : 0 < overflowBound :=
  Nat.mul_pos (by decide) (pow_pos two_pos 970)

/-- The bound of the finite floats as a rational number. -/
theorem cast_overflowBound : (overflowBound : ℚ) = ((2 : ℚ) ^ 54 - 1) * (2 : ℚ) ^ (970 : ℤ) := by
  have hcast : ((2 ^ 54 - 1 : Nat) : ℚ) = (2 : ℚ) ^ 54 - 1 := by norm_num
  have hpower : ((2 : ℕ) : ℚ) ^ 970 = (2 : ℚ) ^ (970 : ℤ) := by
    rw [Nat.cast_two]
    exact (zpow_natCast (2 : ℚ) 970).symm
  rw [overflowBound, Nat.cast_mul, hcast, Nat.cast_pow, hpower]

/-- A rounded significand is canonical when its exponent is not too large. -/
theorem canonical_rounded_iff {exponent : Int} {rounded : Nat} (hleast : -1074 ≤ exponent)
    (hhigh : rounded ≤ Nat.pow 2 53) (hlow : -1074 < exponent → Nat.pow 2 52 ≤ rounded) :
    Canonical (if rounded = Nat.pow 2 53 then Nat.pow 2 52 else rounded)
        (if rounded = Nat.pow 2 53 then exponent + 1 else exponent) ↔
      (if rounded = Nat.pow 2 53 then exponent + 1 else exponent) ≤ 971 := by
  have h53 : Nat.pow 2 53 = 9007199254740992 := rfl
  have h52 : Nat.pow 2 52 = 4503599627370496 := rfl
  rw [Canonical]
  rw [h53] at hhigh ⊢
  rw [h52] at hlow ⊢
  split_ifs <;> omega

/-- What is made of a significand and an exponent is finite exactly if they are canonical. -/
theorem isFinite_dite (negative : Bool) (significand : Nat) (exponent : Int) :
    (if h : Canonical significand exponent then finite negative ⟨significand, exponent, h⟩
      else infinite negative).isFinite = true ↔ Canonical significand exponent := by
  split
  · exact iff_of_true rfl ‹_›
  · exact iff_of_false Bool.false_ne_true ‹_›

theorem isZero_dite (negative : Bool) {significand : Nat} (exponent : Int) (hpos : 0 < significand) :
    (if h : Canonical significand exponent then finite negative ⟨significand, exponent, h⟩
      else infinite negative).isZero = false := by
  split
  · exact beq_eq_false_iff_ne.2 hpos.ne'
  · rfl

/-- The scaled quotient that is rounded has at most 53 bits, and fewer only at the least exponent. -/
theorem scaled_bounds {num den : Nat} (hnum : 0 < num) (hden : 0 < den) {exponent : Int}
    (hexponent : max (-1074) (scaleExponent num den) = exponent) :
    num * 2 ^ (-exponent).toNat < 2 ^ 53 * (den * 2 ^ exponent.toNat) ∧
      (-1074 < exponent →
        2 ^ 52 * (den * 2 ^ exponent.toNat) ≤ num * 2 ^ (-exponent).toNat) := by
  obtain ⟨hlow, hhigh⟩ := scaleExponent_bounds hnum hden
  have hshift : ∀ k : Nat,
      ((2 ^ k : Nat) : ℚ) * (2 : ℚ) ^ exponent = (2 : ℚ) ^ ((k : ℤ) + exponent) := by
    intro k
    rw [zpow_add₀ two_ne_zero]
    norm_cast
  constructor
  · rw [← not_le, mul_scaled_le_iff, hshift, not_le]
    refine hhigh.trans_le (mul_le_mul_of_nonneg_right ?_ (Nat.cast_nonneg den))
    exact zpow_le_zpow_right₀ one_le_two (by push_cast; omega)
  · intro hleast
    have heq : exponent = scaleExponent num den := by omega
    rw [mul_scaled_le_iff, hshift, heq]
    exact_mod_cast hlow

/-- Whether a scaled quotient stays finite depends on the exponent alone, except for the largest
exponent. -/
theorem exponent_le_iff {num den : Nat} (hnum : 0 < num) (hden : 0 < den) {exponent : Int}
    (hexponent : max (-1074) (scaleExponent num den) = exponent) {rounded : Nat}
    (hrounded : roundHalfEven (num * 2 ^ (-exponent).toNat) (den * 2 ^ exponent.toNat) = rounded) :
    (if rounded = Nat.pow 2 53 then exponent + 1 else exponent) ≤ 971 ↔
      num < overflowBound * den := by
  obtain ⟨hlow, hhigh⟩ := scaleExponent_bounds hnum hden
  have hdenPos : (0 : ℚ) < den := by exact_mod_cast hden
  have hpower : (0 : ℚ) < (2 : ℚ) ^ (970 : ℤ) := two_zpow_pos 970
  have hshift : ∀ k : ℤ, (2 : ℚ) ^ (k + 970) = (2 : ℚ) ^ k * (2 : ℚ) ^ (970 : ℤ) :=
    fun k => zpow_add₀ two_ne_zero k 970
  have hcast : num < overflowBound * den ↔ (num : ℚ) < overflowBound * den := by
    rw [← Nat.cast_mul, Nat.cast_lt]
  rw [hcast, cast_overflowBound]
  rcases lt_trichotomy exponent 971 with hless | heq | hmore
  · refine iff_of_true (by split_ifs <;> omega) ?_
    calc (num : ℚ) < (2 : ℚ) ^ (53 + scaleExponent num den) * den := hhigh
      _ ≤ (2 : ℚ) ^ ((53 : ℤ) + 970) * den :=
          mul_le_mul_of_nonneg_right (zpow_le_zpow_right₀ one_le_two (by omega)) hdenPos.le
      _ = (2 : ℚ) ^ (53 : ℤ) * (2 : ℚ) ^ (970 : ℤ) * den := by rw [hshift]
      _ ≤ ((2 : ℚ) ^ 54 - 1) * (2 : ℚ) ^ (970 : ℤ) * den :=
          mul_le_mul_of_nonneg_right
            (mul_le_mul_of_nonneg_right (by norm_num) hpower.le) hdenPos.le
  · -- Half a unit below the next power of two the significand is rounded up to 54 bits.
    obtain ⟨hbelow, _⟩ := scaled_bounds hnum hden hexponent
    have hscaled : 0 < den * 2 ^ exponent.toNat := Nat.mul_pos hden (Nat.two_pow_pos _)
    have htop : rounded = Nat.pow 2 53 ↔
        (2 * (2 ^ 53 - 1) + 1) * (den * 2 ^ exponent.toNat) ≤ 2 * (num * 2 ^ (-exponent).toNat) :=
      hrounded ▸ roundHalfEven_eq_succ_iff hscaled (by decide) hbelow
    rw [← Nat.mul_assoc 2 num, mul_scaled_le_iff, heq] at htop
    have hdouble : (2 : ℚ) ^ (971 : ℤ) = 2 * (2 : ℚ) ^ (970 : ℤ) := by
      rw [show (971 : ℤ) = 1 + 970 by norm_num, hshift, zpow_one]
    have htop' : rounded = Nat.pow 2 53 ↔
        ((2 : ℚ) ^ 54 - 1) * (2 : ℚ) ^ (970 : ℤ) * den ≤ num := by
      rw [htop, hdouble]
      generalize (2 : ℚ) ^ (970 : ℤ) = unit
      push_cast
      constructor
      · intro h
        linarith
      · intro h
        linarith
    rw [← not_le, ← htop', heq]
    split_ifs with htopped
    · simp [htopped]
    · simp [htopped]
  · refine iff_of_false (by split_ifs <;> omega) (not_lt.2 ?_)
    calc ((2 : ℚ) ^ 54 - 1) * (2 : ℚ) ^ (970 : ℤ) * den
        ≤ (2 : ℚ) ^ (54 : ℤ) * (2 : ℚ) ^ (970 : ℤ) * den :=
          mul_le_mul_of_nonneg_right
            (mul_le_mul_of_nonneg_right (by norm_num) hpower.le) hdenPos.le
      _ = (2 : ℚ) ^ ((54 : ℤ) + 970) * den := by rw [hshift]
      _ ≤ (2 : ℚ) ^ (52 + scaleExponent num den) * den :=
          mul_le_mul_of_nonneg_right (zpow_le_zpow_right₀ one_le_two (by omega)) hdenPos.le
      _ ≤ num := hlow

/-- A quotient stays finite exactly below the overflow bound. -/
theorem isFinite_ofRatio_iff (negative : Bool) {num den : Nat} (hden : 0 < den) :
    (ofRatio negative num den).isFinite = true ↔ num < overflowBound * den := by
  rcases Nat.eq_zero_or_pos num with rfl | hnum
  · simp [ofRatio, isFinite, Nat.mul_pos overflowBound_pos hden]
  · generalize hexponent : max (-1074) (scaleExponent num den) = exponent
    obtain ⟨hhigh, hlow⟩ := scaled_bounds hnum hden hexponent
    have hscaled : 0 < den * 2 ^ exponent.toNat := Nat.mul_pos hden (Nat.two_pow_pos _)
    generalize hrounded : roundHalfEven (num * Nat.pow 2 (-exponent).toNat)
      (den * Nat.pow 2 exponent.toNat) = rounded
    rw [← exponent_le_iff hnum hden hexponent hrounded,
      ← canonical_rounded_iff (by omega) (hrounded ▸ roundHalfEven_le hscaled hhigh)
        fun hleast => hrounded ▸ le_roundHalfEven hscaled (hlow hleast),
      ← isFinite_dite negative]
    simp only [ofRatio, hnum.ne', if_false, hexponent, hrounded]

/-- A quotient of at least one does not become zero. -/
theorem isZero_ofRatio (negative : Bool) {num den : Nat} (hden : 0 < den) (h : den ≤ num) :
    (ofRatio negative num den).isZero = false := by
  have hnum : 0 < num := Nat.lt_of_lt_of_le hden h
  generalize hexponent : max (-1074) (scaleExponent num den) = exponent
  have hscaled : 0 < den * 2 ^ exponent.toNat := Nat.mul_pos hden (Nat.two_pow_pos _)
  generalize hrounded : roundHalfEven (num * Nat.pow 2 (-exponent).toNat)
    (den * Nat.pow 2 exponent.toNat) = rounded
  have hleast : -1074 < exponent := by
    obtain ⟨_, hhigh⟩ := scaleExponent_bounds hnum hden
    have hdenPos : (0 : ℚ) < den := by exact_mod_cast hden
    have hone : (1 : ℚ) * den < (2 : ℚ) ^ (53 + scaleExponent num den) * den := by
      rw [one_mul]
      exact lt_of_le_of_lt (by exact_mod_cast h) hhigh
    have hpositive := (one_lt_zpow_iff_right₀ one_lt_two).1 (lt_of_mul_lt_mul_right hone hdenPos.le)
    omega
  have hlarge : 0 < rounded := by
    obtain ⟨_, hlow⟩ := scaled_bounds hnum hden hexponent
    have hbound := le_roundHalfEven hscaled (hlow hleast)
    exact Nat.lt_of_lt_of_le (Nat.two_pow_pos 52) (hrounded ▸ hbound)
  have hsignificand : 0 < (if rounded = Nat.pow 2 53 then Nat.pow 2 52 else rounded) := by
    split
    · exact Nat.two_pow_pos 52
    · exact hlarge
  simp only [ofRatio, hnum.ne', if_false, hexponent, hrounded]
  exact isZero_dite negative _ hsignificand

end Binary64
end VideoBundle
