import VideoBundle.Proofs.Number.Exact
import VideoBundle.Proofs.Project.Artifacts

/-!
# Status texts

The status text of a document gives its length in seconds, a quotient of two measures, and writes each
measure whose value is whole as an integer.  Measures are only known to have passed the check of drafts.
That check rounds integers to binary numbers, and what it lets pass is small enough for everything the
text needs.

Main results:

- `natAbs_lt_of_whole?`: the integer that a measure is written as lies below the overflow bound.
- `isPrintable_of_isPositive`: measures that have passed the check can be written.
- `ofDocument_of_toDocument`: every document has a status text.
-/

namespace VideoBundle

open Binary64 (overflowBound)

/-! ## Written measures -/

/-- A significand has 53 bits. -/
theorem Magnitude.numerator_le (m : Magnitude) {k : Nat} (h : m.exponent ≤ k) :
    m.numerator ≤ (Nat.pow 2 53 - 1) * Nat.pow 2 k :=
  Nat.mul_le_mul (Nat.le_pred_of_lt m.canonical.1) (Nat.pow_le_pow_right two_pos (by omega))

/-- A finite magnitude is below the overflow bound, and so is its whole part. -/
theorem Magnitude.truncate_lt (m : Magnitude) : m.truncate < overflowBound := by
  -- The exponent stays a variable, so that nothing computes the power.
  obtain ⟨top, htop⟩ : ∃ top, top = 971 := ⟨971, rfl⟩
  have hexponent : m.exponent ≤ top := by
    have := m.canonical.2.1
    omega
  have hlargest : (Nat.pow 2 53 - 1) * Nat.pow 2 top < overflowBound := by
    subst htop
    decide +kernel
  calc m.truncate ≤ m.numerator := Nat.div_le_self _ _
    _ ≤ (Nat.pow 2 53 - 1) * Nat.pow 2 top := m.numerator_le hexponent
    _ < overflowBound := hlargest

namespace Number

variable {n : Number} {i : Int}

/-- The integer that a number is written as, if its value is whole. -/
def whole? : Number → Option Int
  | int n => some n
  | float x => x.whole?

/-- A number that passes as a measure is written as a small integer, if as an integer at all. -/
theorem natAbs_lt_of_whole? (h : n.isPositive = .ok true) (hwhole : n.whole? = some i) :
    i.natAbs < overflowBound := by
  cases n with
  | int j =>
      cases hwhole
      exact (isPositive_int_iff.1 h).2
  | float x =>
      cases x with
      | nan => cases hwhole
      | infinite negative => cases hwhole
      | finite negative m =>
          have hm := m.truncate_lt
          rw [whole?, Binary64.whole?] at hwhole
          split at hwhole
          · cases hwhole
            cases negative <;> simpa using hm
          · cases hwhole

/-- Whether a number can be written for a status text: a binary number is finite, and the integer that is
written has few enough digits. -/
structure IsPrintable (n : Number) : Prop where
  finite : ∀ x, n = .float x → x.isFinite = true
  writable : ∀ i, n.whole? = some i → (int i).isWritable = true

/-- Below the overflow bound an integer has few enough digits. -/
theorem isWritable_of_lt (h : i.natAbs < overflowBound) : (int i).isWritable = true := by
  refine decide_eq_true ((Nat.length_toDigits_le_iff (by decide) (by decide)).2 ?_)
  exact h.trans_le (Decimal.overflowBound_le_pow (by decide))

/-- Numbers that pass as measures can be written. -/
theorem isPrintable_of_isPositive (h : n.isPositive = .ok true) : n.IsPrintable where
  finite x hx := by
    subst hx
    exact (isPositive_float_iff.1 h).1
  writable i hwhole := isWritable_of_lt (natAbs_lt_of_whole? h hwhole)

end Number

/-! ## Status texts -/

namespace Status

/-- Every document has a status text: its length can be computed, whether its measures are integers or
binary numbers, and each measure can be written. -/
theorem ofDocument_of_toDocument {draft : Draft} {d : Document} (h : draft.toDocument = .ok d)
    (notes : List String) (tool : String) :
    (∃ text, ofDocument d notes tool = .ok text) ∧
      (∃ length, d.info.durationInFrames.divide d.info.fps = .ok length) ∧
        ∀ n ∈ d.info.measures, n.IsPrintable := by
  obtain ⟨length, hlength⟩ := Draft.exists_divide_of_toDocument h
  refine ⟨⟨_, by rw [ofDocument, hlength]; rfl⟩, ⟨length, hlength⟩, fun n hn => ?_⟩
  exact Number.isPrintable_of_isPositive (Draft.isPositive_of_toDocument h n hn)

/-- A draft at the ends of what passes as a measure: the largest integer, once in one frame a second, the
largest binary number and the least one. -/
def extremeDraft : Draft where
  info :=
    { title := "", compositionId := "Main"
      width := .float (.finite false Magnitude.largest)
      height := .float (.finite false Magnitude.least)
      fps := .int 1
      durationInFrames := .int (overflowBound - 1) }
  entryFile := "/src/Video.tsx"
  files := some (OrderedMap.ofList [("/src/Video.tsx", "video;")])
  defaultProps := []
  inputProps := []

/-- The longest video takes the largest binary number of seconds. -/
theorem ofDocument_extremeDraft :
    ∃ d, extremeDraft.toDocument = .ok d ∧
      (∃ text, ofDocument d [] "create_video" = .ok text) ∧
        d.info.durationInFrames.divide d.info.fps = .ok (.finite false Magnitude.largest) ∧
        ∀ n ∈ d.info.measures, n.IsPrintable := by
  have haccepted : extremeDraft.toDocument.toBool = true := by decide +kernel
  cases hdocument : extremeDraft.toDocument with
  | error e =>
      rw [hdocument] at haccepted
      cases haccepted
  | ok d =>
      obtain ⟨htext, -, hprintable⟩ := ofDocument_of_toDocument hdocument [] "create_video"
      have hinfo : extremeDraft.info = d.info := by rw [(Draft.toDocument_eq_ok_iff.1 hdocument).1]
      refine ⟨d, rfl, htext, ?_, hprintable⟩
      rw [← hinfo]
      decide +kernel

end Status
end VideoBundle
