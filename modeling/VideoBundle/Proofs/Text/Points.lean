import Mathlib.Data.List.Chain
import VideoBundle.Text.Points

/-!
# Code points and their units

Units do not tell a character from a lead and a trail that stand side by side.  So code points can be
read back from their units exactly when no lead stands alone in front of a trail that stands alone.

Main results:

- `joined_points`: what is read from units is joined.
- `points_units_iff`: which code points are read back from their units.
-/

namespace VideoBundle
namespace Point

/-- Whether a code point is a lead that stands alone. -/
def isLead : Point → Bool
  | char _ => false
  | half h => UnitText.isLead h.unit

/-- Whether a code point is a trail that stands alone. -/
def isTrail : Point → Bool
  | char _ => false
  | half h => UnitText.isTrail h.unit

/-- The unit of a half gives the half back. -/
theorem ofUnit_half (h : Half) : ofUnit h.unit = .half h := dif_pos h.isSurrogate

/-- A unit leads a pair exactly if its point does. -/
theorem isLead_ofUnit (u : UInt16) : (ofUnit u).isLead = UnitText.isLead u := by
  unfold ofUnit
  split
  · rfl
  · rename_i h
    rw [Bool.not_eq_true, Bool.or_eq_false_iff] at h
    exact h.1.symm

/-- A unit ends a pair exactly if its point does. -/
theorem isTrail_ofUnit (u : UInt16) : (ofUnit u).isTrail = UnitText.isTrail u := by
  unfold ofUnit
  split
  · rfl
  · rename_i h
    rw [Bool.not_eq_true, Bool.or_eq_false_iff] at h
    exact h.2.symm

end Point

namespace PointText

/-- A text is told by its code points. -/
theorem ofString_injective : Function.Injective ofString := fun s t h => by
  rw [← toText_ofString s, h, toText_ofString]

/-- Whether no lead stands alone directly in front of a trail that stands alone. -/
def Joined (ps : PointText) : Prop :=
  ps.IsChain fun p q => p.isLead = true → q.isTrail = false

instance (ps : PointText) : Decidable (Joined ps) :=
  inferInstanceAs (Decidable (ps.IsChain _))

/-- A text is joined exactly if its first two points are no pair and the others are joined. -/
theorem joined_cons_iff {p : Point} {ps : PointText} :
    Joined (p :: ps) ↔ (∀ q ∈ ps.head?, p.isLead = true → q.isTrail = false) ∧ Joined ps :=
  List.isChain_cons

/-- The units of code points start with a trail only if the first of these is one. -/
theorem isTrail_head?_units {ps : PointText} (h : ∀ q ∈ ps.head?, q.isTrail = false) :
    ∀ v ∈ (units ps).head?, UnitText.isTrail v = false := by
  cases ps with
  | nil => exact fun v hv => nomatch hv
  | cons q ps =>
      cases q with
      | char c => exact UnitText.isTrail_head?_ofChar_append c (units ps)
      | half half =>
          rintro v ⟨⟩
          exact h _ rfl

end PointText

namespace UnitText

/-- Units that write the same code points are the same. -/
theorem points_injective : Function.Injective points := fun us vs h => by
  rw [← units_points us, h, units_points]

/-- What is read from units starts with a trail only if these do. -/
theorem isTrail_head?_points {us : UnitText} (h : ∀ v ∈ us.head?, isTrail v = false) :
    ∀ q ∈ (points us).head?, q.isTrail = false := by
  cases us using points.fun_cases with
  | case1 => exact fun q hq => nomatch hq
  | case2 u =>
      rintro q ⟨⟩
      exact (Point.isTrail_ofUnit u).trans (h u rfl)
  | case3 u v us hpair =>
      rw [points, if_pos hpair]
      rintro q ⟨⟩
      rfl
  | case4 u v us hpair =>
      rw [points, if_neg hpair]
      rintro q ⟨⟩
      exact (Point.isTrail_ofUnit u).trans (h u rfl)

/-- What is read from units is joined. -/
theorem joined_points (us : UnitText) : (points us).Joined := by
  induction us using points.induct with
  | case1 => exact .nil
  | case2 u => exact .singleton _
  | case3 u v us hpair ih =>
      rw [points, if_pos hpair]
      exact PointText.joined_cons_iff.2 ⟨fun _ _ hlead => absurd hlead Bool.false_ne_true, ih⟩
  | case4 u v us hpair ih =>
      rw [points, if_neg hpair]
      refine PointText.joined_cons_iff.2 ⟨fun q hq hlead => ?_, ih⟩
      -- A lead in front of a trail would have been joined with it.
      rw [Point.isLead_ofUnit] at hlead
      refine isTrail_head?_points ?_ q hq
      rintro w ⟨⟩
      simpa [hlead] using hpair

end UnitText

namespace PointText

/-- Code points are read back from their units exactly when they are joined. -/
theorem points_units_iff {ps : PointText} : UnitText.points (units ps) = ps ↔ Joined ps := by
  refine ⟨fun h => h ▸ UnitText.joined_points _, fun h => ?_⟩
  induction ps with
  | nil => rfl
  | cons p ps ih =>
      obtain ⟨hhead, htail⟩ := joined_cons_iff.1 h
      cases p with
      | char c => exact (UnitText.points_ofChar_append c (units ps)).trans (congrArg _ (ih htail))
      | half half =>
          have hcons : units (.half half :: ps) = half.unit :: units ps := rfl
          rw [hcons, UnitText.points_cons, Point.ofUnit_half, ih htail]
          exact fun hlead => isTrail_head?_units fun q hq => hhead q hq hlead

end PointText
end VideoBundle
