import VideoBundle.Number.Decimal
import VideoBundle.Proofs.Number.Rounding

/-!
# Exact values

Rounding depends on the value of a quotient and not on the naturals it is written with, and a value
that the format has is rounded to itself.  So the decimal chosen for a magnitude always reads back.

Main results:

- `ofRatio_congr`: equal quotients are rounded to the same number.
- `ofRatio_magnitude`: a magnitude is rounded to itself.
- `toBinary64_eq_ofRatio`: reading a decimal is rounding its value, whatever its size.
- `toBinary64_congr`: decimals with the same value are read as the same number.
- `toBinary64_shortest`: the decimal chosen for a magnitude reads back.
-/

namespace VideoBundle

/-! ## Equal quotients -/

/-- Rounding depends on the quotient only: a common factor cancels. -/
theorem roundHalfEven_mul_left {k : Nat} (hk : 0 < k) (num den : Nat) :
    roundHalfEven (k * num) (k * den) = roundHalfEven num den := by
  have hdouble : 2 * (k * (num % den)) = k * (2 * (num % den)) := by ring
  simp only [roundHalfEven, Nat.mul_div_mul_left num den hk, Nat.mul_mod_mul_left, hdouble,
    Nat.mul_lt_mul_left hk]

/-- Equal quotients are rounded to the same number. -/
theorem roundHalfEven_congr {num den num' den' : Nat} (hden : 0 < den) (hden' : 0 < den')
    (h : num * den' = num' * den) : roundHalfEven num den = roundHalfEven num' den' := by
  rw [← roundHalfEven_mul_left hden' num den, ← roundHalfEven_mul_left hden num' den',
    Nat.mul_comm den' num, h, Nat.mul_comm den' den, Nat.mul_comm num' den]

/-- A whole quotient is rounded to itself. -/
theorem roundHalfEven_mul_self (n : Nat) {den : Nat} (hden : 0 < den) :
    roundHalfEven (n * den) den = n := by
  simp [roundHalfEven, Nat.mul_div_cancel n hden, hden]

namespace Binary64

/-- The bounds determine the exponent at which a quotient has 53 bits. -/
theorem scaleExponent_eq {num den : Nat} (hnum : 0 < num) (hden : 0 < den) {e : Int}
    (hlow : (2 : ℚ) ^ (52 + e) * den ≤ num) (hhigh : (num : ℚ) < (2 : ℚ) ^ (53 + e) * den) :
    scaleExponent num den = e := by
  have hdenPos : (0 : ℚ) < den := by exact_mod_cast hden
  obtain ⟨hlow', hhigh'⟩ := scaleExponent_bounds hnum hden
  have hle : ∀ {a b : ℤ}, (2 : ℚ) ^ (52 + a) * den ≤ num → (num : ℚ) < (2 : ℚ) ^ (53 + b) * den →
      a ≤ b := by
    intro a b ha hb
    have hpowers := lt_of_mul_lt_mul_right (ha.trans_lt hb) hdenPos.le
    have := (zpow_lt_zpow_iff_right₀ one_lt_two).1 hpowers
    omega
  exact le_antisymm (hle hlow' hhigh) (hle hlow hhigh')

/-- Equal quotients are scaled by the same power of two. -/
theorem scaleExponent_congr {num den num' den' : Nat} (hnum : 0 < num) (hden : 0 < den)
    (hnum' : 0 < num') (hden' : 0 < den') (h : num * den' = num' * den) :
    scaleExponent num den = scaleExponent num' den' := by
  have hdenPos : (0 : ℚ) < den := by exact_mod_cast hden
  have hdenPos' : (0 : ℚ) < den' := by exact_mod_cast hden'
  have hcast : (num : ℚ) * den' = num' * den := by exact_mod_cast h
  obtain ⟨hlow, hhigh⟩ := scaleExponent_bounds hnum' hden'
  refine scaleExponent_eq hnum hden ?_ ?_
  · refine le_of_mul_le_mul_right ?_ hdenPos'
    calc (2 : ℚ) ^ (52 + scaleExponent num' den') * den * den'
        = (2 : ℚ) ^ (52 + scaleExponent num' den') * den' * den := by ring
      _ ≤ num' * den := mul_le_mul_of_nonneg_right hlow hdenPos.le
      _ = num * den' := hcast.symm
  · refine lt_of_mul_lt_mul_right ?_ hdenPos'.le
    calc (num : ℚ) * den' = num' * den := hcast
      _ < (2 : ℚ) ^ (53 + scaleExponent num' den') * den' * den :=
          mul_lt_mul_of_pos_right hhigh hdenPos
      _ = (2 : ℚ) ^ (53 + scaleExponent num' den') * den * den' := by ring

/-- Equal quotients are rounded to the same number. -/
theorem ofRatio_congr (negative : Bool) {num den num' den' : Nat} (hden : 0 < den)
    (hden' : 0 < den') (h : num * den' = num' * den) :
    ofRatio negative num den = ofRatio negative num' den' := by
  rcases Nat.eq_zero_or_pos num with rfl | hnum
  · have hzero : num' = 0 := by
      rw [Nat.zero_mul] at h
      exact (Nat.mul_eq_zero.1 h.symm).resolve_right hden.ne'
    rw [hzero, ofRatio, ofRatio, if_pos rfl, if_pos rfl]
  · have hnum' : 0 < num' := by
      refine Nat.pos_of_ne_zero fun hzero => ?_
      rw [hzero, Nat.zero_mul] at h
      exact (Nat.mul_pos hnum hden').ne' h
    have hrounded : ∀ e : Int, roundHalfEven (num * Nat.pow 2 (-e).toNat) (den * Nat.pow 2 e.toNat) =
        roundHalfEven (num' * Nat.pow 2 (-e).toNat) (den' * Nat.pow 2 e.toNat) := by
      intro e
      refine roundHalfEven_congr (Nat.mul_pos hden (Nat.two_pow_pos _))
        (Nat.mul_pos hden' (Nat.two_pow_pos _)) ?_
      calc num * Nat.pow 2 (-e).toNat * (den' * Nat.pow 2 e.toNat)
          = num * den' * (Nat.pow 2 (-e).toNat * Nat.pow 2 e.toNat) := by ring
        _ = num' * den * (Nat.pow 2 (-e).toNat * Nat.pow 2 e.toNat) := by rw [h]
        _ = num' * Nat.pow 2 (-e).toNat * (den * Nat.pow 2 e.toNat) := by ring
    simp only [ofRatio, hnum.ne', hnum'.ne', if_false, scaleExponent_congr hnum hden hnum' hden' h,
      hrounded]

/-! ## Magnitudes -/

/-- Only zero has the significand zero. -/
theorem significand_eq_zero_iff (m : Magnitude) : m.significand = 0 ↔ m = Magnitude.zero := by
  constructor
  · intro h
    have hcanonical := m.canonical
    have h52 : Nat.pow 2 52 = 4503599627370496 := rfl
    have hexponent : m.exponent = -1074 := by
      rw [Canonical, h, h52] at hcanonical
      omega
    cases m
    simp only at h hexponent
    subst h hexponent
    rfl
  · rintro rfl
    rfl

/-- Comparing a magnitude with a power of two is comparing its significand. -/
theorem pow_mul_denominator_le_iff (m : Magnitude) (k : Nat) :
    (2 : ℚ) ^ ((k : ℤ) + m.exponent) * m.denominator ≤ m.numerator ↔ 2 ^ k ≤ m.significand := by
  have hnumerator : (m.numerator : ℚ) =
      m.significand * ((2 : ℚ) ^ m.exponent * (2 : ℚ) ^ (-m.exponent).toNat) := by
    rw [Magnitude.numerator, Nat.cast_mul, Nat.pow_eq, Nat.cast_pow, Nat.cast_two, pow_toNat_eq_mul]
  have hdenominator : (m.denominator : ℚ) = (2 : ℚ) ^ (-m.exponent).toNat := by
    rw [Magnitude.denominator, Nat.pow_eq, Nat.cast_pow, Nat.cast_two]
  have hscale : (0 : ℚ) < (2 : ℚ) ^ m.exponent * (2 : ℚ) ^ (-m.exponent).toNat :=
    mul_pos (two_zpow_pos _) (by positivity)
  rw [hnumerator, hdenominator, zpow_add₀ two_ne_zero, mul_assoc, mul_le_mul_iff_of_pos_right hscale]
  norm_cast

theorem numerator_pos {m : Magnitude} (h : 0 < m.significand) : 0 < m.numerator :=
  Nat.mul_pos h (Nat.two_pow_pos _)

/-- The exponent of a magnitude is the one that rounding takes. -/
theorem max_scaleExponent_magnitude {m : Magnitude} (h : 0 < m.significand) :
    max (-1074) (scaleExponent m.numerator m.denominator) = m.exponent := by
  obtain ⟨hbits, _, hleast⟩ := m.canonical
  have hhigh : (m.numerator : ℚ) < (2 : ℚ) ^ (53 + m.exponent) * m.denominator :=
    not_le.1 fun hle => absurd ((pow_mul_denominator_le_iff m 53).1 hle) (Nat.not_le.2 hbits)
  rcases hleast with hleast | ⟨hleast, hlow⟩
  · obtain ⟨hlow, _⟩ := scaleExponent_bounds (numerator_pos h) m.denominator_pos
    have hpowers := (zpow_lt_zpow_iff_right₀ one_lt_two).1
      (lt_of_mul_lt_mul_right (hlow.trans_lt hhigh) (Nat.cast_nonneg _))
    omega
  · rw [scaleExponent_eq (numerator_pos h) m.denominator_pos
      ((pow_mul_denominator_le_iff m 52).2 hlow) hhigh]
    omega

/-- A magnitude is rounded to itself. -/
theorem ofRatio_magnitude (negative : Bool) (m : Magnitude) :
    ofRatio negative m.numerator m.denominator = finite negative m := by
  rcases Nat.eq_zero_or_pos m.significand with hzero | hpos
  · have hnumerator : m.numerator = 0 := by rw [Magnitude.numerator, hzero, Nat.zero_mul]
    rw [ofRatio, if_pos hnumerator, (significand_eq_zero_iff m).1 hzero]
  · have hscaled : m.numerator * Nat.pow 2 (-m.exponent).toNat =
        m.significand * (m.denominator * Nat.pow 2 m.exponent.toNat) := by
      rw [Magnitude.numerator, Magnitude.denominator]
      ring
    have hrounded : roundHalfEven (m.numerator * Nat.pow 2 (-m.exponent).toNat)
        (m.denominator * Nat.pow 2 m.exponent.toNat) = m.significand := by
      rw [hscaled]
      exact roundHalfEven_mul_self _ (Nat.mul_pos m.denominator_pos (Nat.two_pow_pos _))
    have hbits : m.significand ≠ Nat.pow 2 53 := m.canonical.1.ne
    simp only [ofRatio, (numerator_pos hpos).ne', max_scaleExponent_magnitude hpos, hrounded, hbits,
      if_false]
    exact dif_pos m.canonical

/-- The sign is kept and plays no part in rounding. -/
theorem ofRatio_cases (num den : Nat) :
    (∃ m, ∀ negative, ofRatio negative num den = finite negative m) ∨
      ∀ negative, ofRatio negative num den = infinite negative := by
  rcases Nat.eq_zero_or_pos num with rfl | hnum
  · exact .inl ⟨Magnitude.zero, fun _ => rfl⟩
  · generalize hexponent : max (-1074) (scaleExponent num den) = exponent
    generalize hrounded : roundHalfEven (num * Nat.pow 2 (-exponent).toNat)
      (den * Nat.pow 2 exponent.toNat) = rounded
    simp only [ofRatio, hnum.ne', if_false, hexponent, hrounded]
    by_cases hcanonical : Canonical (if rounded = Nat.pow 2 53 then Nat.pow 2 52 else rounded)
        (if rounded = Nat.pow 2 53 then exponent + 1 else exponent)
    · exact .inl ⟨⟨_, _, hcanonical⟩, fun _ => dif_pos hcanonical⟩
    · exact .inr fun _ => dif_neg hcanonical

/-- The sign does not bear on what a ratio is rounded to. -/
theorem ofRatio_eq_finite_iff (negative : Bool) (num den : Nat) (m : Magnitude) :
    ofRatio negative num den = finite negative m ↔ ofRatio false num den = finite false m := by
  rcases ofRatio_cases num den with ⟨m, hm⟩ | hinfinite
  · simp [hm]
  · simp [hinfinite]

/-- A quotient from the overflow bound on becomes infinite. -/
theorem ofRatio_of_large (negative : Bool) {num den : Nat} (hden : 0 < den)
    (h : overflowBound * den ≤ num) : ofRatio negative num den = infinite negative := by
  rcases ofRatio_cases num den with ⟨m, hm⟩ | hinfinite
  · have hfinite := (isFinite_ofRatio_iff negative hden).1 (by rw [hm]; rfl)
    exact absurd hfinite (Nat.not_lt.2 h)
  · exact hinfinite negative

theorem cast_two_mul_pow (num k : Nat) :
    ((2 * (num * Nat.pow 2 k) : Nat) : ℚ) = num * (2 : ℚ) ^ ((k : ℤ) + 1) := by
  rw [zpow_add₀ two_ne_zero, zpow_natCast, zpow_one, Nat.pow_eq]
  push_cast
  ring

/-- A quotient below half of the least magnitude becomes zero. -/
theorem ofRatio_of_small (negative : Bool) {num den k : Nat} (hden : 0 < den) (hk : k = 1074)
    (h : 2 * (num * Nat.pow 2 k) < den) :
    ofRatio negative num den = finite negative Magnitude.zero := by
  rcases Nat.eq_zero_or_pos num with rfl | hnum
  · rfl
  · have hexponent : max (-1074) (scaleExponent num den) = -1074 := by
      obtain ⟨hlow, _⟩ := scaleExponent_bounds hnum hden
      have hdenPos : (0 : ℚ) < den := by exact_mod_cast hden
      have hsmall : (num : ℚ) * (2 : ℚ) ^ ((k : ℤ) + 1) < den := by
        rw [← cast_two_mul_pow]
        exact Nat.cast_lt.2 h
      have hscaled : (2 : ℚ) ^ (52 + scaleExponent num den + ((k : ℤ) + 1)) * den <
          (2 : ℚ) ^ (0 : ℤ) * den := by
        rw [zpow_add₀ two_ne_zero, zpow_zero, one_mul]
        refine lt_of_le_of_lt ?_ hsmall
        rw [mul_right_comm]
        exact mul_le_mul_of_nonneg_right hlow (two_zpow_pos _).le
      have hpowers := (zpow_lt_zpow_iff_right₀ one_lt_two).1
        (lt_of_mul_lt_mul_right hscaled hdenPos.le)
      omega
    have hrounded : roundHalfEven (num * Nat.pow 2 k) den = 0 := by
      generalize num * Nat.pow 2 k = scaled at h
      have hless : scaled < den := by omega
      simp only [roundHalfEven, Nat.div_eq_of_lt hless, Nat.mod_eq_of_lt hless, h, if_true]
    have hleast : Canonical 0 (-1074) := Magnitude.zero.canonical
    have htop : ¬(0 : Nat) = Nat.pow 2 53 := (Nat.two_pow_pos 53).ne
    have hup : (-(-1074 : Int)).toNat = k := hk.symm
    have hdown : (-1074 : Int).toNat = 0 := rfl
    have hone : Nat.pow 2 0 = 1 := rfl
    simp only [ofRatio, hnum.ne', hexponent, if_false, hup, hdown, hone, Nat.mul_one, hrounded, htop]
    exact dif_pos hleast

end Binary64

/-! ## Decimals -/

namespace Decimal

/-- The exact value of a decimal. -/
def value (d : Decimal) : ℚ := d.digits * (10 : ℚ) ^ d.exponent

theorem denominator_pos (d : Decimal) : 0 < d.denominator :=
  Nat.pow_pos (by decide)

/-- A power of ten with an integer exponent, split into its two natural powers. -/
theorem ten_pow_toNat_eq_mul (e : Int) :
    (10 : ℚ) ^ e.toNat = (10 : ℚ) ^ e * (10 : ℚ) ^ (-e).toNat := by
  rw [← zpow_natCast, ← zpow_natCast, ← zpow_add₀ (by norm_num)]
  congr 1
  omega

theorem cast_numerator (d : Decimal) : (d.numerator : ℚ) = d.value * d.denominator := by
  rw [numerator, denominator, value, Nat.cast_mul, Nat.pow_eq, Nat.pow_eq, Nat.cast_pow,
    Nat.cast_pow, Nat.cast_ofNat, ten_pow_toNat_eq_mul]
  ring

/-- The digits of a natural bound it. -/
theorem lt_pow_width (n : Nat) : n < 10 ^ width n :=
  (Nat.length_toDigits_le_iff (by decide) Nat.length_toDigits_pos).1 le_rfl

/-- A number is at least the power of ten of its width less one. -/
theorem pow_width_le {n : Nat} (h : 0 < n) : 10 ^ (width n - 1) ≤ n := by
  rcases Nat.lt_or_ge 1 (width n) with hwidth | hwidth
  · by_contra hless
    have := (Nat.length_toDigits_le_iff (by decide) (by omega)).2 (Nat.lt_of_not_le hless)
    rw [width] at hwidth this
    omega
  · rw [Nat.sub_eq_zero_of_le hwidth]
    exact h

/-- The powers of ten from the four hundredth on are beyond the finite floats. -/
theorem overflowBound_le_pow {k : Nat} (h : 400 ≤ k) : Binary64.overflowBound ≤ 10 ^ k :=
  le_trans (by decide +kernel) (Nat.pow_le_pow_right (by decide) h)

theorem two_mul_pow_le_pow {k n : Nat} (hk : k = 1074) (h : 400 ≤ n) :
    2 * Nat.pow 2 k ≤ 10 ^ n := by
  subst hk
  exact le_trans (by decide +kernel) (Nat.pow_le_pow_right (by decide) h)

/-- A decimal of large size is not below the overflow bound. -/
theorem toBinary64_of_large (negative : Bool) {d : Decimal} (hdigits : d.digits ≠ 0)
    (h : 400 < (width d.digits : Int) + d.exponent) :
    Binary64.ofRatio negative d.numerator d.denominator = .infinite negative := by
  refine Binary64.ofRatio_of_large negative d.denominator_pos ?_
  have hexponents : width d.digits - 1 + d.exponent.toNat - (-d.exponent).toNat +
      (-d.exponent).toNat = width d.digits - 1 + d.exponent.toNat := by omega
  calc Binary64.overflowBound * d.denominator
      ≤ 10 ^ (width d.digits - 1 + d.exponent.toNat - (-d.exponent).toNat) * d.denominator :=
        Nat.mul_le_mul_right _ (overflowBound_le_pow (by omega))
    _ = 10 ^ (width d.digits - 1 + d.exponent.toNat) := by
        rw [← hexponents, Nat.pow_add, hexponents]
        rfl
    _ = 10 ^ (width d.digits - 1) * 10 ^ d.exponent.toNat := Nat.pow_add ..
    _ ≤ d.numerator := Nat.mul_le_mul_right _ (pow_width_le (Nat.pos_of_ne_zero hdigits))

/-- A decimal of small size is below half of the least magnitude. -/
theorem toBinary64_of_small (negative : Bool) {d : Decimal}
    (h : (width d.digits : Int) + d.exponent < -400) :
    Binary64.ofRatio negative d.numerator d.denominator = .finite negative Magnitude.zero := by
  obtain ⟨k, hk⟩ : ∃ k : Nat, k = 1074 := ⟨_, rfl⟩
  refine Binary64.ofRatio_of_small negative d.denominator_pos hk ?_
  have hup : d.exponent.toNat = 0 := by omega
  have hdown : (-d.exponent).toNat = width d.digits + ((-d.exponent).toNat - width d.digits) := by
    omega
  have hnumerator : d.numerator = d.digits := by
    rw [numerator, hup]
    exact Nat.mul_one _
  calc 2 * (d.numerator * Nat.pow 2 k) = d.digits * (2 * Nat.pow 2 k) := by
        rw [hnumerator, Nat.mul_left_comm]
    _ < 10 ^ width d.digits * (2 * Nat.pow 2 k) :=
        Nat.mul_lt_mul_of_pos_right (lt_pow_width _) (Nat.mul_pos two_pos (Nat.two_pow_pos _))
    _ ≤ 10 ^ width d.digits * 10 ^ ((-d.exponent).toNat - width d.digits) :=
        Nat.mul_le_mul_left _ (two_mul_pow_le_pow hk (by omega))
    _ = d.denominator := by rw [← Nat.pow_add, ← hdown]; rfl

/-- Reading a decimal is rounding its value, whatever its size. -/
theorem toBinary64_eq_ofRatio (negative : Bool) (d : Decimal) :
    d.toBinary64 negative = Binary64.ofRatio negative d.numerator d.denominator := by
  unfold toBinary64
  by_cases hsmall : d.digits = 0 ∨ (width d.digits : Int) + d.exponent < -400
  · rw [if_pos hsmall]
    rcases hsmall with hzero | hsmall
    · rw [numerator, hzero, Nat.zero_mul]
      rfl
    · rw [toBinary64_of_small negative hsmall]
  · rw [if_neg hsmall]
    by_cases hlarge : 400 < (width d.digits : Int) + d.exponent
    · rw [if_pos hlarge, toBinary64_of_large negative (not_or.1 hsmall).1 hlarge]
    · rw [if_neg hlarge]

/-- Decimals with the same value are read as the same number. -/
theorem toBinary64_congr (negative : Bool) {d e : Decimal} (h : d.value = e.value) :
    d.toBinary64 negative = e.toBinary64 negative := by
  rw [toBinary64_eq_ofRatio, toBinary64_eq_ofRatio]
  refine Binary64.ofRatio_congr negative d.denominator_pos e.denominator_pos ?_
  have hcast : (d.numerator : ℚ) * e.denominator = e.numerator * d.denominator := by
    rw [cast_numerator, cast_numerator, h]
    ring
  exact_mod_cast hcast

end Decimal

namespace Magnitude

/-- The decimal with the exact value of a magnitude reads back. -/
theorem toBinary64_exactDecimal (negative : Bool) (m : Magnitude) :
    m.exactDecimal.toBinary64 negative = .finite negative m := by
  rw [Decimal.toBinary64_eq_ofRatio, ← Binary64.ofRatio_magnitude negative m]
  refine Binary64.ofRatio_congr negative (Decimal.denominator_pos _) m.denominator_pos ?_
  have hup : (min m.exponent 0).toNat = 0 := by omega
  have hdown : (-min m.exponent 0).toNat = (-m.exponent).toNat := by omega
  have hten : (10 : Nat) ^ (-m.exponent).toNat = 5 ^ (-m.exponent).toNat * 2 ^ (-m.exponent).toNat := by
    rw [← Nat.mul_pow]
  simp only [exactDecimal, Decimal.numerator, Decimal.denominator, denominator, hup, hdown, Nat.pow_eq,
    hten, Nat.pow_zero, Nat.mul_one, Nat.mul_assoc]

/-- The decimal chosen for a magnitude reads back. -/
theorem toBinary64_shortest (negative : Bool) (m : Magnitude) :
    m.shortest.toBinary64 negative = .finite negative m := by
  cases hfound : m.candidates.find? m.readsBack with
  | none =>
      rw [shortest, hfound]
      exact m.toBinary64_exactDecimal negative
  | some d =>
      have hback := m.shortest_reads_back (by simp [hfound])
      rw [Decimal.toBinary64_eq_ofRatio] at hback ⊢
      exact (Binary64.ofRatio_eq_finite_iff negative _ _ m).2 hback

end Magnitude
end VideoBundle
