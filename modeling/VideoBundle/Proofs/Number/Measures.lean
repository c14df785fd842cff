import VideoBundle.Project.Draft
import VideoBundle.Proofs.Number.Rounding

/-!
# Measures

The measures of a video are positive numbers.  Integers of any size are asked whether they are finite,
and those that have no nearest binary number give no answer.  Two measures that have passed the check
can always be divided.

Main results:

- `isPositive_eq_error_iff`: the numbers that cannot be tested.
- `exists_divide_of_isPositive`: positive numbers have a quotient.
-/

namespace VideoBundle

/-- The least magnitude above zero. -/
def Magnitude.least : Magnitude := ⟨1, -1074, by decide⟩

/-- The largest magnitude. -/
def Magnitude.largest : Magnitude := ⟨9007199254740991, 971, by decide⟩

namespace Number

open Binary64 (overflowBound)

/-- An integer has no nearest binary number exactly from the overflow bound on. -/
theorem floatOfInt_eq (n : Int) :
    floatOfInt n = if n.natAbs < overflowBound then .ok (Binary64.ofRatio (n < 0) n.natAbs 1)
      else .error .integerTooLarge := by
  have hfinite := @Binary64.isFinite_ofRatio_iff (decide (n < 0)) n.natAbs 1 Nat.one_pos
  rw [Nat.mul_one] at hfinite
  simp only [floatOfInt, hfinite]

/-- The numbers that cannot be tested are the integers from the overflow bound on. -/
theorem isPositive_eq_error_iff {n : Number} {e : NumberError} :
    n.isPositive = .error e ↔
      e = .integerTooLarge ∧ ∃ i : Int, n = .int i ∧ overflowBound ≤ i.natAbs := by
  cases n with
  | float x => simp [isPositive, isFinite, Except.map]
  | int i =>
      simp only [isPositive, isFinite, floatOfInt_eq]
      split
      · rename_i hsmall
        simp [Except.map, Nat.not_le.2 hsmall]
      · rename_i hlarge
        simp [Except.map, Nat.le_of_not_lt hlarge, eq_comm]

/-- The integers that are positive numbers. -/
theorem isPositive_int_iff {i : Int} :
    (int i).isPositive = .ok true ↔ 0 < i ∧ i.natAbs < overflowBound := by
  simp only [isPositive, isFinite, floatOfInt_eq]
  split
  · rename_i hsmall
    simp [Except.map, isNonpositive, hsmall]
  · rename_i hlarge
    simp [Except.map, hlarge]

/-- The binary numbers that are positive numbers. -/
theorem isPositive_float_iff {x : Binary64} :
    (float x).isPositive = .ok true ↔ x.isFinite = true ∧ x.isNonpositive = false := by
  simp [isPositive, isFinite, isNonpositive, Except.map]

/-- A positive number has a nearest binary number, which is not zero. -/
theorem exists_toFloat_of_isPositive {n : Number} (h : n.isPositive = .ok true) :
    ∃ x, n.toFloat = .ok x ∧ x.isZero = false := by
  cases n with
  | float x =>
      refine ⟨x, rfl, ?_⟩
      cases x with
      | nan => rfl
      | infinite negative => rfl
      | finite negative m =>
          have hpositive := (isPositive_float_iff.1 h).2
          rw [Binary64.isNonpositive, Bool.or_eq_false_iff] at hpositive
          exact hpositive.2
  | int i =>
      obtain ⟨hpositive, hsmall⟩ := isPositive_int_iff.1 h
      refine ⟨_, by rw [toFloat, floatOfInt_eq, if_pos hsmall], ?_⟩
      exact Binary64.isZero_ofRatio _ Nat.one_pos (by omega)

/-- Positive numbers have a quotient. -/
theorem exists_divide_of_isPositive {a b : Number} (ha : a.isPositive = .ok true)
    (hb : b.isPositive = .ok true) : ∃ x, a.divide b = .ok x := by
  obtain ⟨x, hx, _⟩ := exists_toFloat_of_isPositive ha
  obtain ⟨y, hy, hzero⟩ := exists_toFloat_of_isPositive hb
  have hmixed : ∃ z, (do
      let x ← a.toFloat
      let y ← b.toFloat
      if y.isZero then .error .divisionByZero else .ok (x.divide y) :
        Except NumberError Binary64) = .ok z := by
    rw [hx, hy]
    exact ⟨x.divide y, by simp [hzero, bind, Except.bind]⟩
  cases a with
  | float x => exact hmixed
  | int a =>
      cases b with
      | float y => exact hmixed
      | int b =>
          obtain ⟨_, hsmall⟩ := isPositive_int_iff.1 ha
          obtain ⟨hpositive, _⟩ := isPositive_int_iff.1 hb
          have hden : 0 < b.natAbs := by omega
          have hfinite := (Binary64.isFinite_ofRatio_iff (decide (a < 0) != decide (b < 0)) hden).2
            (Nat.lt_of_lt_of_le hsmall (Nat.le_mul_of_pos_right _ hden))
          rw [divide, if_neg hpositive.ne']
          exact ⟨_, if_pos hfinite⟩

end Number
end VideoBundle
