import VideoBundle.Text.Units

/-!
# Code points

A text that comes from outside can hold halves of surrogate pairs that stand alone, which a `String`
cannot.  As a row of code points it has characters and such halves.  Two halves side by side are two code
points; in units they are the pair of one character.

Main results:

- `points_append_ofChar`: a character in a row of units is read as that character.
- `units_points`: the code points of units write these units.
- `toText_ofString`: the units of a string are read back as that string.
-/

namespace VideoBundle

/-- Half of a surrogate pair that stands alone. -/
structure Half where
  unit : UInt16
  isSurrogate : (UnitText.isLead unit || UnitText.isTrail unit) = true
deriving DecidableEq

/-- A code point: a character, or half of a surrogate pair. -/
inductive Point where
  | char (c : Char)
  | half (h : Half)
deriving DecidableEq

/-- A text as a list of code points. -/
abbrev PointText := List Point

namespace Point

/-- The replacement character is shown for half of a surrogate pair. -/
def replacement : Char := Char.ofNat 0xFFFD

/-- The character that is shown for a code point. -/
def shown : Point → Char
  | char c => c
  | half _ => replacement

/-- The units of a code point. -/
def units : Point → UnitText
  | char c => UnitText.ofChar c
  | half h => [h.unit]

/-- The code point of a unit that is joined with no other. -/
def ofUnit (u : UInt16) : Point :=
  if h : (UnitText.isLead u || UnitText.isTrail u) = true then half ⟨u, h⟩
  else char (Char.ofNat u.toNat)

/-- The unit that is joined with no other is the one of its code point. -/
theorem units_ofUnit (u : UInt16) : (ofUnit u).units = [u] := by
  unfold ofUnit
  split
  · rfl
  · rename_i h
    rw [Bool.not_eq_true, Bool.or_eq_false_iff] at h
    exact UnitText.ofChar_ofNat h.1 h.2

end Point

namespace PointText

/-- The code points of a string. -/
def ofString (s : String) : PointText := s.toList.map .char

/-- The string that is shown for code points, with the replacement character for halves. -/
def toText (ps : PointText) : String := String.ofList (ps.map Point.shown)

/-- The units of code points. -/
def units (ps : PointText) : UnitText := ps.flatMap Point.units

/-- The half of a pair that stands in front of the last `n` code points. -/
def halfBefore? (ps : PointText) (n : Nat) : Option Half :=
  match ps.reverse[n]? with
  | some (.half h) => some h
  | _ => none

/-- A text without halves has none at any place. -/
theorem halfBefore?_map_char (cs : List Char) (n : Nat) :
    halfBefore? (cs.map .char) n = none := by
  rw [halfBefore?, ← List.map_reverse, List.getElem?_map]
  cases cs.reverse[n]? <;> rfl

/-- Characters are shown as they are. -/
theorem map_shown_map_char (cs : List Char) : (cs.map .char).map Point.shown = cs := by
  have hshown : Point.shown ∘ Point.char = id := rfl
  rw [List.map_map, hshown, List.map_id]

/-- A text without halves is its characters. -/
theorem toText_map_char (cs : List Char) : toText (cs.map .char) = String.ofList cs := by
  rw [toText, map_shown_map_char]

/-- The code points of a string are read back as that string. -/
@[simp]
theorem toText_ofString (s : String) : toText (ofString s) = s := by
  rw [ofString, toText_map_char, String.ofList_toList]

end PointText

namespace UnitText

/-- The code points that units write: a lead in front of a trail is joined with it. -/
def points : UnitText → PointText
  | [] => []
  | [u] => [.ofUnit u]
  | u :: v :: us =>
      if isLead u && isTrail v then .char (joined u v) :: points us
      else .ofUnit u :: points (v :: us)

/-- The string that is shown for units, with the replacement character for halves that stand alone. -/
def toText (us : UnitText) : String := PointText.toText (points us)

/-- A lead and a trail in front are joined into one character. -/
theorem points_pair {u v : UInt16} (hl : isLead u = true) (ht : isTrail v = true) (us : UnitText) :
    points (u :: v :: us) = .char (joined u v) :: points us := by
  rw [points, hl, ht]
  rfl

/-- A unit that is no lead, or that no trail follows, is read for itself. -/
theorem points_cons {u : UInt16} {us : UnitText}
    (h : isLead u = true → ∀ v ∈ us.head?, isTrail v = false) :
    points (u :: us) = .ofUnit u :: points us := by
  cases us with
  | nil => rfl
  | cons v us =>
      rw [points, if_neg]
      rw [Bool.and_eq_true]
      rintro ⟨hl, ht⟩
      simp [h hl v rfl] at ht

/-- The units of a character do not start with a trail. -/
theorem isTrail_head?_ofChar_append (c : Char) (us : UnitText) :
    ∀ v ∈ (ofChar c ++ us).head?, isTrail v = false := by
  rcases ofChar_cases c with ⟨u, hu, -, ht, -⟩ | ⟨u, v, huv, hl, -, -⟩
  · simpa [hu] using ht
  · rw [isLead_iff] at hl
    rw [huv]
    rintro w ⟨⟩
    rw [← Bool.not_eq_true, isTrail_iff]
    omega

/-- The units of a character at the start are read as that character. -/
theorem points_ofChar_append (c : Char) (us : UnitText) :
    points (ofChar c ++ us) = .char c :: points us := by
  rcases ofChar_cases c with ⟨u, hu, hl, ht, hc⟩ | ⟨u, v, huv, hl, ht, hc⟩
  · have hpoint : Point.ofUnit u = .char c := by
      rw [Point.ofUnit, dif_neg (by simp [hl, ht]), hc]
    rw [hu, List.singleton_append, points_cons (by simp [hl]), hpoint]
  · rw [huv, List.cons_append, List.singleton_append, points_pair hl ht, hc]

/-- A character in a row of units is read as that character, whatever stands in front of it. -/
theorem points_append_ofChar (us : UnitText) (c : Char) (vs : UnitText) :
    points (us ++ (ofChar c ++ vs)) = points us ++ .char c :: points vs := by
  induction us using points.induct with
  | case1 => exact points_ofChar_append c vs
  | case2 u =>
      -- The last unit in front is the only one that the character could be joined with.
      rw [List.singleton_append, points_cons fun _ => isTrail_head?_ofChar_append c vs,
        points_ofChar_append]
      rfl
  | case3 u v us hpair ih =>
      rw [Bool.and_eq_true] at hpair
      rw [List.cons_append, List.cons_append, points_pair hpair.1 hpair.2, ih,
        points_pair hpair.1 hpair.2, List.cons_append]
  | case4 u v us hpair ih =>
      rw [List.cons_append] at ih
      rw [List.cons_append, List.cons_append, points, if_neg hpair, ih, points, if_neg hpair,
        List.cons_append]

/-- The code points of units write these units. -/
theorem units_points (us : UnitText) : (points us).units = us := by
  induction us using points.induct with
  | case1 => rfl
  | case2 u => exact (List.append_nil _).trans (Point.units_ofUnit u)
  | case3 u v us hpair ih =>
      rw [Bool.and_eq_true] at hpair
      rw [points_pair hpair.1 hpair.2, PointText.units, List.flatMap_cons, Point.units,
        ofChar_joined hpair.1 hpair.2]
      exact congrArg ([u, v] ++ ·) ih
  | case4 u v us hpair ih =>
      rw [points, if_neg hpair, PointText.units, List.flatMap_cons, Point.units_ofUnit]
      exact congrArg ([u] ++ ·) ih

/-- The units of characters are read back as these characters. -/
theorem points_ofChars (cs : List Char) : points (ofChars cs) = cs.map .char := by
  induction cs with
  | nil => rfl
  | cons c cs ih =>
      rw [ofChars, List.flatMap_cons, points_ofChar_append, List.map_cons, ← ih]
      rfl

/-- Characters come back through their units. -/
theorem toText_ofChars (cs : List Char) : toText (ofChars cs) = String.ofList cs := by
  rw [toText, points_ofChars, PointText.toText_map_char]

/-- The units of a string are read back as that string. -/
@[simp]
theorem toText_ofString (s : String) : toText (ofString s) = s := by
  rw [ofString, toText_ofChars, String.ofList_toList]

end UnitText
end VideoBundle
