import VideoBundle.Number.Basic
import VideoBundle.Proofs.Number.Exact

/-!
# Written numerals

What is written for a number is read back as that number, whatever follows that does not go on with
the numeral.  A numeral is written from its parts; the parts of a finite number have the value of the
decimal that was chosen for it, wherever the point stands.

Main results:

- `scan?_text`: a numeral is read back from its parts.
- `exists_text_integerDigits`: what is written for an integer is a numeral of it.
- `exists_text_numeral`: what is written for a finite number is a numeral of it.
- `ofNumeral?_numeral`: a written finite number is read back.
-/

namespace VideoBundle

/-! ## Rows of digits -/

/-- Whether a row holds ASCII digits only. -/
def IsDigitRow (ds : List Char) : Prop := ∀ c ∈ ds, isAsciiDigit c = true

theorem IsDigitRow.append {ds es : List Char} (hds : IsDigitRow ds) (hes : IsDigitRow es) :
    IsDigitRow (ds ++ es) := by
  intro c hc
  rcases List.mem_append.1 hc with hc | hc
  · exact hds c hc
  · exact hes c hc

theorem IsDigitRow.of_append {ds es : List Char} (h : IsDigitRow (ds ++ es)) :
    IsDigitRow ds ∧ IsDigitRow es :=
  ⟨fun c hc => h c (List.mem_append_left _ hc), fun c hc => h c (List.mem_append_right _ hc)⟩

theorem isDigitRow_replicate (n : Nat) : IsDigitRow (List.replicate n '0') := by
  intro c hc
  rw [List.eq_of_mem_replicate hc]
  decide

theorem isDigitRow_decimalDigits (n : Nat) : IsDigitRow (decimalDigits n) := by
  intro c hc
  have hdigit := Nat.isDigit_of_mem_toDigits (by decide) (by decide) hc
  simpa [isAsciiDigit, Char.isDigit, Char.le_def] using hdigit

/-- A row of digits is taken off a text as far as it goes. -/
theorem IsDigitRow.takeWhile_append {ds rest : List Char} (h : IsDigitRow ds)
    (hrest : ∀ c ∈ rest.head?, isAsciiDigit c = false) :
    (ds ++ rest).takeWhile isAsciiDigit = ds ∧ (ds ++ rest).dropWhile isAsciiDigit = rest := by
  rw [List.takeWhile_append_of_pos h, List.dropWhile_append_of_pos h]
  cases rest with
  | nil => simp
  | cons c rest =>
      have hc := hrest c rfl
      simp [hc]

/-- The value of a row of digits is the one of the standard library. -/
theorem asciiDigitsValue_eq (ds : List Char) : asciiDigitsValue ds = Nat.ofDigitChars 10 ds 0 :=
  Nat.ofDigitChars_eq_foldl.symm

/-- The digits in front count by the power of ten of those behind. -/
theorem asciiDigitsValue_append (ds es : List Char) :
    asciiDigitsValue (ds ++ es) = 10 ^ es.length * asciiDigitsValue ds + asciiDigitsValue es := by
  simp only [asciiDigitsValue_eq]
  rw [Nat.ofDigitChars_append, Nat.ofDigitChars_eq_ofDigitChars_zero]

theorem asciiDigitsValue_replicate (n : Nat) : asciiDigitsValue (List.replicate n '0') = 0 := by
  rw [asciiDigitsValue_eq, Nat.ofDigitChars_replicate_zero, Nat.mul_zero]

/-- A number is the value of its digits. -/
theorem asciiDigitsValue_decimalDigits (n : Nat) : asciiDigitsValue (decimalDigits n) = n := by
  rw [asciiDigitsValue_eq]
  exact Nat.ofDigitChars_toDigits (by decide) (by decide)

/-- A row of digits writes a number of no more digits. -/
theorem asciiDigitsValue_lt {ds : List Char} (h : IsDigitRow ds) :
    asciiDigitsValue ds < 10 ^ ds.length := by
  induction ds with
  | nil => decide
  | cons d ds ih =>
      have hrest := ih fun c hc => h c (List.mem_cons_of_mem _ hc)
      have hdigit : asciiDigitsValue [d] ≤ 9 := by
        have hd := h d List.mem_cons_self
        simp only [isAsciiDigit, Bool.and_eq_true, decide_eq_true_eq] at hd
        have hle : d.toNat ≤ '9'.toNat := hd.2
        have hnine : '9'.toNat = 57 := rfl
        simp only [asciiDigitsValue, List.foldl_cons, List.foldl_nil]
        omega
      have happend := asciiDigitsValue_append [d] ds
      rw [List.singleton_append] at happend
      rw [happend, List.length_cons, Nat.pow_succ]
      have := Nat.mul_le_mul_left (10 ^ ds.length) hdigit
      omega

/-! ## Whole digits -/

/-- Whether a row can stand in front of the point: a zero alone, or digits that start with another. -/
inductive IsWhole : List Char → Prop where
  | zero : IsWhole ['0']
  | digits {c : Char} {cs : List Char} (hc : c ≠ '0') (h : IsDigitRow (c :: cs)) : IsWhole (c :: cs)

theorem IsWhole.ne_nil {ds : List Char} (h : IsWhole ds) : ds ≠ [] := by
  cases h <;> simp

theorem IsWhole.isDigitRow {ds : List Char} (h : IsWhole ds) : IsDigitRow ds := by
  cases h with
  | zero => exact isDigitRow_replicate 1
  | digits _ h => exact h

/-- The whole part of a numeral begins with a digit. -/
theorem IsWhole.exists_eq_cons {ds : List Char} (h : IsWhole ds) :
    ∃ c cs, ds = c :: cs ∧ isAsciiDigit c = true := by
  cases h with
  | zero => exact ⟨'0', [], rfl, by decide⟩
  | @digits c cs _ h => exact ⟨c, cs, rfl, h c List.mem_cons_self⟩

/-- A whole part with a zero in front is that zero. -/
theorem IsWhole.tail_eq_nil {ds : List Char} (h : IsWhole ('0' :: ds)) : ds = [] := by
  cases h with
  | zero => rfl
  | digits hc _ => exact absurd rfl hc

/-- The digits of a natural start with a zero for zero only. -/
theorem isWhole_decimalDigits (n : Nat) : IsWhole (decimalDigits n) := by
  rcases Nat.eq_zero_or_pos n with rfl | hn
  · exact .zero
  · have hhead : ∀ n, 0 < n → ∃ c cs, decimalDigits n = c :: cs ∧ c ≠ '0' := by
      intro n
      induction n using Nat.strongRecOn with
      | ind n ih =>
      intro hn
      rw [decimalDigits, Nat.toDigits_eq_if (by decide)]
      split
      · exact ⟨_, [], rfl, fun h => hn.ne' (Nat.digitChar_eq_zero.1 h)⟩
      · obtain ⟨c, cs, heq, hc⟩ := ih (n / 10) (by omega) (by omega)
        rw [decimalDigits] at heq
        exact ⟨c, _, by rw [heq]; rfl, hc⟩
    obtain ⟨c, cs, heq, hc⟩ := hhead n hn
    have hdigits := isDigitRow_decimalDigits n
    rw [heq] at hdigits ⊢
    exact .digits hc hdigits

/-! ## Numerals from their parts -/

/-- Whether a text does not go on with a numeral. -/
def EndsNumeral (rest : List Char) : Prop :=
  ∀ c ∈ rest.head?, isAsciiDigit c = false ∧ c ≠ '.' ∧ c ≠ 'e' ∧ c ≠ 'E'

namespace Numeral

/-- The text of a fraction. -/
def fractionText : Option (List Char) → List Char
  | none => []
  | some ds => '.' :: ds

/-- The text of a power of ten, which always has a sign. -/
def powerText : Option (Bool × List Char) → List Char
  | none => []
  | some (negative, ds) => 'e' :: (if negative then '-' else '+') :: ds

/-- The text of a numeral. -/
def text (n : Numeral) : List Char :=
  (if n.negative then ['-'] else []) ++ (n.whole ++ (fractionText n.fraction ++ powerText n.power))

/-- Whether the rows of a numeral are rows of digits that can stand in their places. -/
structure WellFormed (n : Numeral) : Prop where
  whole : IsWhole n.whole
  fraction : ∀ ds ∈ n.fraction, IsDigitRow ds ∧ ds ≠ []
  power : ∀ p ∈ n.power, IsDigitRow p.2 ∧ p.2 ≠ []

/-- A numeral is written with digits, signs, a point and an `e`. -/
theorem WellFormed.of_mem_text {n : Numeral} (h : n.WellFormed) {c : Char} (hc : c ∈ n.text) :
    isAsciiDigit c = true ∨ c ∈ ['-', '+', '.', 'e'] := by
  rw [text, List.mem_append, List.mem_append, List.mem_append] at hc
  rcases hc with hsign | hwhole | hfraction | hpower
  · split at hsign
    · exact .inr (by simp_all)
    · cases hsign
  · exact .inl (h.whole.isDigitRow c hwhole)
  · cases hf : n.fraction with
    | none => simp [hf, fractionText] at hfraction
    | some ds =>
        rw [hf, fractionText, List.mem_cons] at hfraction
        rcases hfraction with rfl | hds
        · exact .inr (by simp)
        · exact .inl ((h.fraction ds hf).1 c hds)
  · cases hp : n.power with
    | none => simp [hp, powerText] at hpower
    | some p =>
        rw [hp, powerText, List.mem_cons, List.mem_cons] at hpower
        rcases hpower with rfl | hc | hds
        · exact .inr (by simp)
        · exact .inr (by split at hc <;> simp [hc])
        · exact .inl ((h.power p hp).1 c hds)

/-- A written power of ten is scanned in front of what ends a numeral. -/
theorem scanPower_text {p : Option (Bool × List Char)} (hp : ∀ q ∈ p, IsDigitRow q.2 ∧ q.2 ≠ [])
    {rest : List Char} (hrest : EndsNumeral rest) : scanPower (powerText p ++ rest) = (p, rest) := by
  cases p with
  | none =>
      cases rest with
      | nil => rfl
      | cons c rest =>
          obtain ⟨_, _, he, hE⟩ := hrest c rfl
          simp [powerText, scanPower, he, hE]
  | some q =>
      obtain ⟨negative, ds⟩ := q
      obtain ⟨hdigits, hne⟩ := hp _ rfl
      obtain ⟨htake, hdrop⟩ := hdigits.takeWhile_append fun c hc => (hrest c hc).1
      cases negative <;> simp [powerText, scanPower, scanSign, htake, hdrop, hne]

/-- A written fraction is scanned in front of what is no digit. -/
theorem scanFraction_text {f : Option (List Char)} (hf : ∀ ds ∈ f, IsDigitRow ds ∧ ds ≠ [])
    {rest : List Char} (hrest : ∀ c ∈ rest.head?, isAsciiDigit c = false ∧ c ≠ '.') :
    scanFraction (fractionText f ++ rest) = (f, rest) := by
  cases f with
  | none =>
      cases rest with
      | nil => rfl
      | cons c rest =>
          have hc := (hrest c rfl).2
          rw [fractionText, List.nil_append, scanFraction]
          intro tail heq
          exact hc (List.cons.inj heq).1
  | some ds =>
      obtain ⟨hdigits, hne⟩ := hf _ rfl
      obtain ⟨htake, hdrop⟩ := hdigits.takeWhile_append fun c hc => (hrest c hc).1
      simp [fractionText, scanFraction, htake, hdrop, hne]

/-- A written whole part is scanned in front of what is no digit. -/
theorem scanWhole_text {ds : List Char} (hds : IsWhole ds) {rest : List Char}
    (hrest : ∀ c ∈ rest.head?, isAsciiDigit c = false) : scanWhole (ds ++ rest) = (ds, rest) := by
  cases hds with
  | zero => rfl
  | @digits c cs hc h =>
      obtain ⟨htake, hdrop⟩ := h.takeWhile_append hrest
      rw [List.cons_append] at htake hdrop ⊢
      simp [scanWhole, hc, htake, hdrop]

/-- What begins a power of ten continues no fraction. -/
theorem head?_powerText (p : Option (Bool × List Char)) {rest : List Char} (hrest : EndsNumeral rest) :
    ∀ c ∈ (powerText p ++ rest).head?, isAsciiDigit c = false ∧ c ≠ '.' := by
  intro c hc
  cases p with
  | none => exact ⟨(hrest c hc).1, (hrest c hc).2.1⟩
  | some q =>
      cases hc
      decide

/-- What begins a fraction continues no whole part. -/
theorem head?_fractionText (f : Option (List Char)) {rest : List Char}
    (hrest : ∀ c ∈ rest.head?, isAsciiDigit c = false) :
    ∀ c ∈ (fractionText f ++ rest).head?, isAsciiDigit c = false := by
  intro c hc
  cases f with
  | none => exact hrest c hc
  | some ds =>
      cases hc
      decide

/-- A numeral starts with a digit, perhaps behind a minus. -/
theorem WellFormed.exists_text_append_eq {n : Numeral} (h : n.WellFormed) (rest : List Char) :
    ∃ d ds, isAsciiDigit d = true ∧
      (n.text ++ rest = d :: ds ∨ n.text ++ rest = '-' :: d :: ds) := by
  obtain ⟨d, ds, hds, hd⟩ := h.whole.exists_eq_cons
  refine ⟨d, ds ++ (fractionText n.fraction ++ (powerText n.power ++ rest)), hd, ?_⟩
  by_cases hnegative : n.negative = true <;> simp [text, hds, hnegative]

/-- A numeral is read back from its parts. -/
theorem scan?_text {n : Numeral} (h : n.WellFormed) {rest : List Char} (hrest : EndsNumeral rest) :
    Numeral.scan? (n.text ++ rest) = some (n, rest) := by
  obtain ⟨negative, whole, fraction, power⟩ := n
  have hpower : scanPower (powerText power ++ rest) = (power, rest) := scanPower_text h.power hrest
  have hhead := head?_powerText power hrest
  have hfraction : scanFraction (fractionText fraction ++ (powerText power ++ rest)) =
      (fraction, powerText power ++ rest) := scanFraction_text h.fraction hhead
  have hwhole : scanWhole (whole ++ (fractionText fraction ++ (powerText power ++ rest))) =
      (whole, fractionText fraction ++ (powerText power ++ rest)) :=
    scanWhole_text h.whole (head?_fractionText fraction fun c hc => (hhead c hc).1)
  have hne : whole ≠ [] := h.whole.ne_nil
  cases negative with
  | true => simp [text, Numeral.scan?, hwhole, hfraction, hpower, hne]
  | false =>
      obtain ⟨c, cs, hcs, hdigit⟩ := h.whole.exists_eq_cons
      have hc : c ≠ '-' := by
        rintro rfl
        exact absurd hdigit (by decide)
      simp only at hcs
      subst hcs
      rw [List.cons_append] at hwhole
      simp [text, Numeral.scan?, hc, hwhole, hfraction, hpower]

end Numeral

/-! ## Integers -/

/-- What is scanned as the whole part is a row of digits. -/
theorem isDigitRow_scanWhole (cs : List Char) : IsDigitRow (scanWhole cs).1 := by
  unfold scanWhole
  split
  · exact isDigitRow_replicate 1
  · exact fun c hc => List.all_eq_true.1 List.all_takeWhile c hc

/-- The whole part of a numeral that was found in a text is a row of digits. -/
theorem isDigitRow_of_scan? {cs rest : List Char} {n : Numeral}
    (h : Numeral.scan? cs = some (n, rest)) : IsDigitRow n.whole := by
  simp only [Numeral.scan?] at h
  -- The sign does not matter to what follows it.
  split at h
  all_goals
    split at h
    · cases h
    · cases h
      exact isDigitRow_scanWhole _

/-- An integer that was read has few enough digits to be written. -/
theorem isWritable_of_toInt {n : Numeral} (hn : IsDigitRow n.whole) {i : Int}
    (h : n.toInt = .ok i) : (Number.int i).isWritable = true := by
  unfold Numeral.toInt at h
  split at h
  · cases h
  · rename_i hlength
    have habs : i.natAbs = asciiDigitsValue n.whole := by
      cases h
      split <;> simp
    rw [Number.isWritable, decide_eq_true_eq, habs, Decimal.width]
    refine (Nat.length_toDigits_le_iff (by decide) (by decide)).2 ?_
    exact Nat.lt_of_lt_of_le (asciiDigitsValue_lt hn)
      (Nat.pow_le_pow_right (by decide) (Nat.le_of_not_lt hlength))

/-- The numeral of an integer is read as that integer, unless it has too many digits. -/
theorem exists_text_integerDigits (i : Int) :
    ∃ n : Numeral, n.WellFormed ∧ n.isInteger = true ∧ n.text = integerDigits i ∧
      n.toInt = if (Number.int i).isWritable then .ok i
        else .error ⟨some (Decimal.width i.natAbs)⟩ := by
  refine ⟨⟨decide (i < 0), decimalDigits i.natAbs, none, none⟩,
    ⟨isWhole_decimalDigits _, by simp, by simp⟩, rfl, ?text, ?value⟩
  case text =>
    by_cases hneg : i < 0 <;>
      simp [integerDigits, Numeral.text, Numeral.fractionText, Numeral.powerText, hneg]
  case value =>
    have hvalue : (if decide (i < 0) = true then -(i.natAbs : Int) else i.natAbs) = i := by
      by_cases hneg : i < 0
      · simp only [hneg, decide_true, if_true]
        omega
      · simp only [hneg, decide_false, Bool.false_eq_true, if_false]
        omega
    have hlength : (decimalDigits i.natAbs).length = Decimal.width i.natAbs := rfl
    simp only [Numeral.toInt, asciiDigitsValue_decimalDigits, hvalue, hlength, Number.isWritable]
    by_cases hwidth : maxIntegerDigits < Decimal.width i.natAbs
    · simp [hwidth]
    · simp [hwidth]

/-! ## Digits around a point -/

/-- The value of a row with the point at `point`. -/
def pointValue (ds : List Char) (point : Int) : ℚ :=
  asciiDigitsValue ds * (10 : ℚ) ^ (point - ds.length)

theorem ten_ne_zero : (10 : ℚ) ≠ 0 := by norm_num

/-- Zeros behind a row do not change its value. -/
theorem pointValue_append_replicate (ds : List Char) (n : Nat) (point : Int) :
    pointValue (ds ++ List.replicate n '0') point = pointValue ds point := by
  have hexponent : point - (ds.length : ℤ) = (n : ℤ) + (point - (ds.length + n : ℕ)) := by
    push_cast
    omega
  simp only [pointValue, asciiDigitsValue_append, asciiDigitsValue_replicate, List.length_append,
    List.length_replicate, Nat.add_zero]
  rw [hexponent, zpow_add₀ ten_ne_zero, zpow_natCast]
  push_cast
  ring

/-- Zeros in front of a row move the point. -/
theorem pointValue_replicate_append (ds : List Char) (n : Nat) (point : Int) :
    pointValue (List.replicate n '0' ++ ds) (point + n) = pointValue ds point := by
  simp only [pointValue, asciiDigitsValue_append, asciiDigitsValue_replicate, List.length_append,
    List.length_replicate, Nat.mul_zero, Nat.zero_add]
  congr 2
  push_cast
  omega

/-- The digits that count, with the zeros that were moved into the exponent. -/
theorem exists_decimalDigits_eq (d : Decimal) :
    ∃ n, decimalDigits d.digits = significantDigits d ++ List.replicate n '0' := by
  refine ⟨((decimalDigits d.digits).reverse.takeWhile (· == '0')).length, ?_⟩
  have hzeros : (decimalDigits d.digits).reverse.takeWhile (· == '0') =
      List.replicate ((decimalDigits d.digits).reverse.takeWhile (· == '0')).length '0' :=
    List.eq_replicate_of_mem fun c hc => by simpa using List.all_eq_true.1 List.all_takeWhile c hc
  rw [significantDigits, ← List.reverse_replicate, ← hzeros, ← List.reverse_append,
    List.takeWhile_append_dropWhile, List.reverse_reverse]

/-- The digits that count, with the point behind the whole ones, have the value of the decimal. -/
theorem pointValue_significantDigits (d : Decimal) :
    pointValue (significantDigits d) (Decimal.width d.digits + d.exponent) = d.value := by
  obtain ⟨n, hn⟩ := exists_decimalDigits_eq d
  rw [← pointValue_append_replicate _ n, ← hn, pointValue, asciiDigitsValue_decimalDigits,
    Decimal.value]
  congr 2
  rw [Decimal.width, decimalDigits]
  omega

/-- The digits that count start with one that is not zero. -/
theorem exists_significantDigits_eq {d : Decimal} (h : d.digits ≠ 0) :
    ∃ c cs, significantDigits d = c :: cs ∧ c ≠ '0' ∧ IsDigitRow (c :: cs) := by
  obtain ⟨n, hn⟩ := exists_decimalDigits_eq d
  have hrow := isDigitRow_decimalDigits d.digits
  have hwhole := isWhole_decimalDigits d.digits
  have hvalue := asciiDigitsValue_decimalDigits d.digits
  rw [hn] at hrow hwhole hvalue
  cases hds : significantDigits d with
  | nil =>
      rw [hds, List.nil_append, asciiDigitsValue_replicate] at hvalue
      exact absurd hvalue.symm h
  | cons c cs =>
      rw [hds] at hrow hwhole hvalue
      refine ⟨c, cs, rfl, ?_, hrow.of_append.1⟩
      rintro rfl
      rw [List.cons_append] at hwhole hvalue
      rw [hwhole.tail_eq_nil] at hvalue
      exact absurd hvalue.symm h

/-! ## Finite numbers -/

/-- The power of ten of a numeral. -/
def Numeral.shift (n : Numeral) : Int :=
  match n.power with
  | none => 0
  | some (negative, ds) => if negative then -(asciiDigitsValue ds : Int) else asciiDigitsValue ds

/-- The value of a numeral is that of its digits, with the point moved by its power of ten. -/
theorem value_toDecimal (n : Numeral) :
    n.toDecimal.value = pointValue (n.whole ++ n.fraction.getD []) (n.whole.length + n.shift) := by
  have hexponent : n.toDecimal.exponent = n.shift - (n.fraction.getD []).length := rfl
  rw [Decimal.value, hexponent, pointValue, Numeral.toDecimal, List.length_append]
  congr 2
  push_cast
  ring

/-- A numeral that is no integer has a text behind its sign, and the value of digits with the point at
`point`. -/
structure Numeral.Writes (n : Numeral) (text ds : List Char) (point : Int) : Prop where
  wellFormed : n.WellFormed
  isInteger : n.isInteger = false
  text_eq : n.text = (if n.negative then ['-'] else []) ++ text
  value : n.toDecimal.value = pointValue ds point

/-- A numeral with a fraction and no power writes the digits around their point. -/
theorem Numeral.writes_fraction (negative : Bool) (whole fraction : List Char) {text ds : List Char}
    {point : Int} (hwhole : IsWhole whole) (hfraction : IsDigitRow fraction) (hne : fraction ≠ [])
    (htext : text = whole ++ '.' :: fraction)
    (hvalue : pointValue (whole ++ fraction) whole.length = pointValue ds point) :
    (⟨negative, whole, some fraction, none⟩ : Numeral).Writes text ds point where
  wellFormed := ⟨hwhole, by rintro _ ⟨⟩; exact ⟨hfraction, hne⟩, by simp⟩
  isInteger := rfl
  text_eq := by simp [Numeral.text, fractionText, powerText, htext]
  value := by rw [value_toDecimal, ← hvalue]; simp [shift]

variable {c : Char} {cs : List Char}

/-- Digits are written around a point. -/
theorem exists_writes_positional (hc : c ≠ '0') (hrow : IsDigitRow (c :: cs)) (negative : Bool)
    (point : Int) :
    ∃ n : Numeral, n.negative = negative ∧ n.Writes (positional (c :: cs) point) (c :: cs) point := by
  by_cases hleft : point ≤ 0
  · -- The point stands in front of the digits, behind a zero.
    generalize hcount : (-point).toNat = count
    refine ⟨_, rfl, Numeral.writes_fraction negative ['0'] (List.replicate count '0' ++ c :: cs) .zero
      ((isDigitRow_replicate count).append hrow) (by simp) ?_ ?_⟩
    · simp [positional, hleft, hcount]
    · have hpoint : ((['0'].length : Nat) : Int) = point + (count + 1 : Nat) := by
        rw [List.length_singleton]
        omega
      rw [hpoint, ← pointValue_replicate_append (c :: cs) (count + 1) point, List.replicate_succ]
      rfl
  · by_cases hright : (c :: cs).length ≤ point.toNat
    · -- The point stands behind the digits and perhaps some zeros.
      generalize hcount : point.toNat - (c :: cs).length = count
      refine ⟨_, rfl, Numeral.writes_fraction negative (c :: cs ++ List.replicate count '0') ['0']
        (.digits hc (hrow.append (isDigitRow_replicate count))) (isDigitRow_replicate 1) (by simp)
        ?_ ?_⟩
      · rw [positional, if_neg hleft]
        simp only [if_pos hright, hcount, List.append_assoc, List.cons_append]
      · have hpoint : (((c :: cs ++ List.replicate count '0').length : Nat) : Int) = point := by
          rw [List.length_append, List.length_replicate]
          omega
        rw [hpoint, ← pointValue_append_replicate (c :: cs) count point]
        exact pointValue_append_replicate _ 1 point
    · -- The point stands between two digits.
      obtain ⟨count, hcount⟩ : ∃ count, point.toNat = count + 1 := ⟨point.toNat - 1, by omega⟩
      rw [hcount] at hright
      refine ⟨_, rfl, Numeral.writes_fraction negative (c :: cs.take count) (cs.drop count)
        (.digits hc ?_) (fun d hd => hrow d (List.mem_cons_of_mem _ (List.mem_of_mem_drop hd))) ?_
        ?_ ?_⟩
      · intro d hd
        exact hrow d (List.cons_subset_cons c (List.take_subset count cs) hd)
      · rw [Ne, List.drop_eq_nil_iff]
        rw [List.length_cons] at hright
        omega
      · rw [positional, if_neg hleft]
        simp only [hcount, if_neg hright, List.take_succ_cons, List.drop_succ_cons]
      · have hpoint : (((c :: cs.take count).length : Nat) : Int) = point := by
          rw [List.length_cons] at hright ⊢
          rw [List.length_take]
          omega
        rw [hpoint, List.cons_append, List.take_append_drop]

/-- Digits are written as one digit, the others behind a point, and a power of ten. -/
theorem exists_writes_scientific (style : NumeralStyle) (hc : c ≠ '0') (hrow : IsDigitRow (c :: cs))
    (negative : Bool) (point : Int) :
    ∃ n : Numeral, n.negative = negative ∧
      n.Writes (scientific style (c :: cs) (point - 1)) (c :: cs) point := by
  generalize hexponent : point - 1 = exponent
  generalize hcount : style.exponentWidth - (decimalDigits exponent.natAbs).length = count
  generalize hpower : List.replicate count '0' ++ decimalDigits exponent.natAbs = power
  have hpowerRow : IsDigitRow power ∧ power ≠ [] := by
    rw [← hpower]
    exact ⟨(isDigitRow_replicate count).append (isDigitRow_decimalDigits _),
      by simp [(isWhole_decimalDigits exponent.natAbs).ne_nil]⟩
  have hvalue : asciiDigitsValue power = exponent.natAbs := by
    rw [← hpower, asciiDigitsValue_append, asciiDigitsValue_replicate,
      asciiDigitsValue_decimalDigits, Nat.mul_zero, Nat.zero_add]
  have hfirst : IsDigitRow [c] := by
    intro d hd
    rw [List.mem_singleton.1 hd]
    exact hrow c List.mem_cons_self
  have hothers : IsDigitRow cs := fun d hd => hrow d (List.mem_cons_of_mem c hd)
  refine ⟨⟨negative, [c], if cs = [] then none else some cs, some (decide (exponent < 0), power)⟩, rfl,
    ⟨.digits hc hfirst, ?fraction, ?power⟩, by simp [Numeral.isInteger], ?text, ?value⟩
  case fraction =>
    intro ds hds
    by_cases hcs : cs = []
    · simp [hcs] at hds
    · simp only [hcs, if_false] at hds
      cases hds
      exact ⟨hothers, hcs⟩
  case power =>
    rintro _ ⟨⟩
    exact hpowerRow
  case text =>
    by_cases hcs : cs = [] <;> by_cases hsign : exponent < 0 <;>
      simp [Numeral.text, Numeral.fractionText, Numeral.powerText, scientific, hcs, hsign, hcount, hpower]
  case value =>
    have hdigits : [c] ++ (if cs = [] then none else some cs).getD [] = c :: cs := by
      by_cases hcs : cs = [] <;> simp [hcs]
    have hshift : (([c].length : Nat) : Int) +
        (if decide (exponent < 0) = true then -(asciiDigitsValue power : Int)
          else asciiDigitsValue power) = point := by
      rw [hvalue, List.length_singleton]
      by_cases hsign : exponent < 0
      · simp only [hsign, decide_true, if_true]
        omega
      · simp only [hsign, decide_false, Bool.false_eq_true, if_false]
        omega
    rw [value_toDecimal]
    simp only [Numeral.shift, hdigits]
    rw [hshift]

/-! ## Reading finite numbers -/

theorem digits_shortest_ne_zero {m : Magnitude} (h : m.significand ≠ 0) : m.shortest.digits ≠ 0 := by
  intro hzero
  have hback := m.toBinary64_shortest false
  rw [Decimal.toBinary64, if_pos (.inl hzero)] at hback
  simp only [Binary64.finite.injEq, true_and] at hback
  exact h ((Binary64.significand_eq_zero_iff m).2 hback.symm)

/-- The numeral of a magnitude is that of the decimal chosen for it. -/
theorem exists_text_numeral (style : NumeralStyle) (negative : Bool) (m : Magnitude) :
    ∃ n : Numeral, n.WellFormed ∧ n.isInteger = false ∧
      n.text = (if negative then ['-'] else []) ++ m.numeral style ∧
      n.toBinary64 = .finite negative m := by
  by_cases hzero : m.significand = 0
  · refine ⟨⟨negative, ['0'], some ['0'], none⟩, ⟨.zero, ?_, by simp⟩, rfl, ?_, ?_⟩
    · rintro _ ⟨⟩
      exact ⟨isDigitRow_replicate 1, by simp⟩
    · simp [Numeral.text, Numeral.fractionText, Numeral.powerText, Magnitude.numeral, hzero]
    · rw [(Binary64.significand_eq_zero_iff m).1 hzero]
      rfl
  · obtain ⟨c, cs, hds, hc, hrow⟩ := exists_significantDigits_eq (digits_shortest_ne_zero hzero)
    generalize hpoint : (Decimal.width m.shortest.digits : Int) + m.shortest.exponent = point
    have hvalue : pointValue (c :: cs) point = m.shortest.value := by
      rw [← hds, ← hpoint, pointValue_significantDigits]
    have hwrites : ∃ n : Numeral, n.negative = negative ∧ n.Writes (m.numeral style) (c :: cs) point := by
      rw [Magnitude.numeral, if_neg hzero]
      simp only [hds, hpoint]
      split
      · exact exists_writes_positional hc hrow negative point
      · exact exists_writes_scientific style hc hrow negative point
    obtain ⟨n, hsign, hn⟩ := hwrites
    refine ⟨n, hn.wellFormed, hn.isInteger, hsign ▸ hn.text_eq, ?_⟩
    rw [Numeral.toBinary64, hsign, ← m.toBinary64_shortest negative]
    exact Decimal.toBinary64_congr negative (hn.value.trans hvalue)

/-- A written finite number is read back. -/
theorem ofNumeral?_numeral {x : Binary64} (h : x.isFinite = true) :
    Binary64.ofNumeral? x.numeral = some x := by
  cases x with
  | nan => cases h
  | infinite negative => cases h
  | finite negative m =>
      obtain ⟨n, hn, _, htext, hvalue⟩ := exists_text_numeral .standard negative m
      have hscan : Numeral.scan? (n.text ++ []) = some (n, []) :=
        Numeral.scan?_text hn (by simp [EndsNumeral])
      obtain ⟨d, ds, hd, hstart⟩ := hn.exists_text_append_eq []
      rw [List.append_nil] at hscan hstart
      have hletter : ∀ c, isAsciiDigit c = false → c ≠ d := by
        rintro c hc rfl
        simp [hd] at hc
      have hwords : n.text ≠ "nan".toList ∧ n.text ≠ "inf".toList ∧ n.text ≠ "-inf".toList := by
        have hna := (hletter 'n' (by decide)).symm
        have hi := (hletter 'i' (by decide)).symm
        have hminus := (hletter '-' (by decide)).symm
        rcases hstart with hstart | hstart <;> rw [hstart] <;> simp [hna, hi, hminus]
      have hnumeral : (Binary64.finite negative m).numeral = n.text := htext.symm
      rw [hnumeral, Binary64.ofNumeral?, if_neg hwords.1, if_neg hwords.2.1, if_neg hwords.2.2, hscan,
        ← hvalue]

end VideoBundle
