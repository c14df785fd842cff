/-!
# Sixteen-bit units

A character up to U+FFFF is one sixteen-bit unit, a later one is a pair: a lead unit of D800 to DBFF and
a trail unit of DC00 to DFFF.

Main results:

- `ofChar_cases`: the two ways in which a character is written.
- `ofChar_joined`: a lead and a trail are the units of the character that they join to.
-/

namespace VideoBundle

/-- The number of a character is the one it was made from, if that is the number of a character. -/
theorem toNat_charOfNat {n : Nat} (h : n.isValidChar) : (Char.ofNat n).toNat = n := by
  rw [Char.ofNat, dif_pos h]
  rfl

/-- A text as a list of sixteen-bit units. -/
abbrev UnitText := List UInt16

namespace UnitText

/-- The units of one character. -/
def ofChar (c : Char) : UnitText :=
  let code := c.toNat
  if code < 0x10000 then
    [UInt16.ofNat code]
  else
    [UInt16.ofNat (0xD800 + (code - 0x10000) / 0x400),
     UInt16.ofNat (0xDC00 + (code - 0x10000) % 0x400)]

/-- The units of a text of characters. -/
def ofChars (cs : List Char) : UnitText :=
  cs.flatMap ofChar

/-- The units of a string. -/
def ofString (s : String) : UnitText :=
  ofChars s.toList

/-- Whether a unit opens a surrogate pair. -/
def isLead (u : UInt16) : Bool :=
  0xD800 ≤ u.toNat && u.toNat < 0xDC00

/-- Whether a unit closes a surrogate pair. -/
def isTrail (u : UInt16) : Bool :=
  0xDC00 ≤ u.toNat && u.toNat < 0xE000

/-- The character that a lead and a trail write. -/
def joined (lead trail : UInt16) : Char :=
  Char.ofNat (0x10000 + (lead.toNat - 0xD800) * 0x400 + (trail.toNat - 0xDC00))

/-- The first half of a surrogate pair, by its range. -/
theorem isLead_iff {u : UInt16} : isLead u = true ↔ 0xD800 ≤ u.toNat ∧ u.toNat < 0xDC00 := by
  simp [isLead]

/-- The second half of a surrogate pair, by its range. -/
theorem isTrail_iff {u : UInt16} : isTrail u = true ↔ 0xDC00 ≤ u.toNat ∧ u.toNat < 0xE000 := by
  simp [isTrail]

/-- A unit that is no surrogate writes one character. -/
theorem ofChar_ofNat {u : UInt16} (hl : isLead u = false) (ht : isTrail u = false) :
    ofChar (Char.ofNat u.toNat) = [u] := by
  have hlt : u.toNat < 0x10000 := u.toNat_lt
  have hvalid : u.toNat.isValidChar := by
    rw [← Bool.not_eq_true, isLead_iff] at hl
    rw [← Bool.not_eq_true, isTrail_iff] at ht
    unfold Nat.isValidChar
    omega
  rw [ofChar, toNat_charOfNat hvalid, if_pos hlt, UInt16.ofNat_toNat]

/-- A lead and a trail are the units of the character that they join to. -/
theorem ofChar_joined {u v : UInt16} (hl : isLead u = true) (ht : isTrail v = true) :
    ofChar (joined u v) = [u, v] := by
  rw [isLead_iff] at hl
  rw [isTrail_iff] at ht
  have hcode : (joined u v).toNat = 0x10000 + (u.toNat - 0xD800) * 0x400 + (v.toNat - 0xDC00) :=
    toNat_charOfNat (by unfold Nat.isValidChar; omega)
  have hlead : 0xD800 + ((joined u v).toNat - 0x10000) / 0x400 = u.toNat := by omega
  have htrail : 0xDC00 + ((joined u v).toNat - 0x10000) % 0x400 = v.toNat := by omega
  rw [ofChar, if_neg (by omega), hlead, htrail, UInt16.ofNat_toNat, UInt16.ofNat_toNat]

/-- A character is one unit that is no surrogate, or a lead and a trail that join to it. -/
theorem ofChar_cases (c : Char) :
    (∃ u, ofChar c = [u] ∧ isLead u = false ∧ isTrail u = false ∧ Char.ofNat u.toNat = c) ∨
      ∃ u v, ofChar c = [u, v] ∧ isLead u = true ∧ isTrail v = true ∧ joined u v = c := by
  have hvalid : c.toNat < 0xD800 ∨ (0xDFFF < c.toNat ∧ c.toNat < 0x110000) := c.valid
  have hunit : ∀ n < 0x10000, (UInt16.ofNat n).toNat = n := fun n hn => by
    rw [UInt16.toNat_ofNat']
    exact Nat.mod_eq_of_lt hn
  by_cases hlt : c.toNat < 0x10000
  · refine .inl ⟨UInt16.ofNat c.toNat, by rw [ofChar, if_pos hlt], ?_, ?_, ?_⟩
    · rw [← Bool.not_eq_true, isLead_iff, hunit _ hlt]
      omega
    · rw [← Bool.not_eq_true, isTrail_iff, hunit _ hlt]
      omega
    · rw [hunit _ hlt, Char.ofNat_toNat]
  · have hmod : (c.toNat - 0x10000) % 0x400 < 0x400 := Nat.mod_lt _ (by decide)
    have hlead := hunit (0xD800 + (c.toNat - 0x10000) / 0x400) (by omega)
    have htrail := hunit (0xDC00 + (c.toNat - 0x10000) % 0x400) (by omega)
    refine .inr ⟨_, _, by rw [ofChar, if_neg hlt], ?_, ?_, ?_⟩
    · rw [isLead_iff, hlead]
      omega
    · rw [isTrail_iff, htrail]
      omega
    · have hcode : 0x10000 + (0xD800 + (c.toNat - 0x10000) / 0x400 - 0xD800) * 0x400 +
          (0xDC00 + (c.toNat - 0x10000) % 0x400 - 0xDC00) = c.toNat := by
        omega
      rw [joined, hlead, htrail, hcode, Char.ofNat_toNat]

end UnitText
end VideoBundle
