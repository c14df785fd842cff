import Mathlib.Data.List.Basic
import VideoBundle.Bundler.Log
import VideoBundle.Proofs.Number.Numerals
import VideoBundle.Proofs.Text.Trimming

/-!
# Kinds of lines in logs

Headers, places and excerpts are told apart by few characters: the first that is not blank, the last, and
the first behind a number in front.  So a line that is written in one of these forms is read in that form
and in no other.

Main results:

- `header?_written`, `place?_written`, `excerpt?_written`: a line that is written is read back.
- `header?_eq_none`, `place?_eq_none`, `excerpt?_eq_none`: lines that are not of a kind.
- `naturalOfDigits_decimalDigits`: a number that is written is read back, if it is not too long.
-/

namespace VideoBundle
namespace Log

open Text

variable {line file blanks : List Char}

/-! ## Numbers -/

/-- What holds of the ten digits holds of every ASCII digit. -/
theorem forall_asciiDigit {p : Char → Prop} (h : ∀ n < 10, p (Char.ofNat (48 + n))) {c : Char}
    (hc : isAsciiDigit c = true) : p c := by
  simp only [isAsciiDigit, Bool.and_eq_true, decide_eq_true_eq, Char.le_def, UInt32.le_iff_toNat_le] at hc
  have hlow : 48 ≤ c.toNat := hc.1
  have hhigh : c.toNat ≤ 57 := hc.2
  have hdigit := h (c.toNat - 48) (by omega)
  rwa [show 48 + (c.toNat - 48) = c.toNat by omega, Char.ofNat_toNat] at hdigit

/-- The value of an ASCII digit is its distance from the digit zero. -/
theorem digitValue?_of_isAsciiDigit {c : Char} (hc : isAsciiDigit c = true) :
    digitValue? c = some (c.toNat - 48) :=
  forall_asciiDigit (p := fun c => digitValue? c = some (c.toNat - 48)) (by decide) hc

/-- A numeral in decimal has decimal digits only. -/
theorem isDecimalDigit_of_mem {n : Nat} : ∀ c ∈ decimalDigits n, isDecimalDigit c = true := by
  intro c hc
  rw [isDecimalDigit, digitValue?_of_isAsciiDigit (isDigitRow_decimalDigits n c hc)]
  rfl

theorem decimalDigits_ne_nil (n : Nat) : decimalDigits n ≠ [] :=
  (isWhole_decimalDigits n).ne_nil

/-- The digits of a number start with one that is neither blank nor the start of a header. -/
theorem exists_decimalDigits_eq_cons (n : Nat) :
    ∃ c cs, decimalDigits n = c :: cs ∧ isBlank c = false ∧ isMark c = false ∧ c ≠ '[' := by
  obtain ⟨c, cs, heq, hc⟩ := (isWhole_decimalDigits n).exists_eq_cons
  exact ⟨c, cs, heq, forall_asciiDigit (p := fun c => isBlank c = false ∧ isMark c = false ∧ c ≠ '[')
    (by decide) hc⟩

/-- No digit ends a line, so a numeral stays on one line. -/
theorem isLineBoundary_of_mem {n : Nat} : ∀ c ∈ decimalDigits n, isLineBoundary c = false := by
  intro c hc
  exact forall_asciiDigit (p := fun c => isLineBoundary c = false) (by decide)
    (isDigitRow_decimalDigits n c hc)

/-- A number that is written is read back, if it has few enough digits. -/
theorem naturalOfDigits_decimalDigits (n : Nat) :
    naturalOfDigits (decimalDigits n) =
      if n < 10 ^ maxIntegerDigits then .ok n else .error ⟨some (decimalDigits n).length⟩ := by
  have hvalue : digitsValue (decimalDigits n) = n := by
    have hfold : digitsValue (decimalDigits n) = asciiDigitsValue (decimalDigits n) := by
      refine List.foldl_ext _ _ 0 fun n' c hc => ?_
      rw [digitValue?_of_isAsciiDigit (isDigitRow_decimalDigits n c hc)]
      rfl
    rw [hfold, asciiDigitsValue_decimalDigits]
  have hlength : maxIntegerDigits < (decimalDigits n).length ↔ ¬n < 10 ^ maxIntegerDigits := by
    rw [← Nat.not_le, decimalDigits, Nat.length_toDigits_le_iff (by decide) (by decide)]
  rw [naturalOfDigits, hvalue]
  by_cases hn : n < 10 ^ maxIntegerDigits
  · rw [if_neg (mt hlength.1 (not_not_intro hn)), if_pos hn]
  · rw [if_pos (hlength.2 hn), if_neg hn]

/-! ## Blanks at the ends -/

/-- Nothing is dropped behind a character that is not blank. -/
theorem stripRight_concat {c : Char} (hc : isBlank c = false) (cs : List Char) :
    stripRight (cs ++ [c]) = cs ++ [c] := by
  rw [stripRight, dropRightWhile]
  simp [hc]

/-- A blank at the end is stripped with the others. -/
theorem stripRight_concat_blank {c : Char} (hc : isBlank c = true) (cs : List Char) :
    stripRight (cs ++ [c]) = stripRight cs := by
  rw [stripRight, stripRight, dropRightWhile, dropRightWhile]
  simp [hc]

/-! ## Headers -/

/-- A line is no header if no header starts with its first character that is not blank. -/
theorem header?_eq_none (h : ∀ c ∈ (stripLeft line).head?, isMark c = false ∧ c ≠ '[') :
    header? line = none := by
  have hlead : afterLead? "[ERROR]".toList (stripLeft (skipOne isMark (stripLeft line))) = none := by
    cases hfirst : stripLeft line with
    | nil => rfl
    | cons c cs =>
        obtain ⟨hmark, hbracket⟩ := h c (by rw [hfirst]; rfl)
        have hne : '[' ≠ c := fun heq => hbracket heq.symm
        rw [skipOne, hmark, if_neg Bool.false_ne_true,
          stripLeft_cons (isBlank_of_stripLeft_eq_cons hfirst)]
        simp [afterLead?, hne]
  rw [header?, hlead]

/-- A line is no header if behind its blanks a character stands that starts none. -/
theorem header?_padded (blanks : List Char) (hblanks : ∀ b ∈ blanks, isBlank b = true) {c : Char}
    (hc : isBlank c = false ∧ isMark c = false ∧ c ≠ '[') (cs : List Char) :
    header? (blanks ++ c :: cs) = none := by
  refine header?_eq_none ?_
  rw [stripLeft_append hblanks, stripLeft_cons hc.1]
  rintro _ ⟨⟩
  exact hc.2

/-- A header with a mark in front is read back. -/
theorem header?_written {c : Char} (hc : isBlank c = false) (cs : List Char) :
    header? ('✘' :: (" [ERROR] ".toList ++ c :: cs)) = some (c :: cs) := by
  have hmark : skipOne isMark (stripLeft ('✘' :: (" [ERROR] ".toList ++ c :: cs))) =
      " [ERROR] ".toList ++ c :: cs := rfl
  have hlead : afterLead? "[ERROR]".toList (stripLeft (" [ERROR] ".toList ++ c :: cs)) =
      some (' ' :: c :: cs) := by
    rw [afterLead?_eq_some_iff]
    rfl
  have htext : stripLeft (' ' :: c :: cs) = c :: cs := stripLeft_cons hc cs
  rw [header?, hmark, hlead]
  simp [htext]

/-! ## Places -/

/-- A line names no place if it does not end in a colon. -/
theorem place?_eq_none (h : line.getLast? ≠ some ':') : place? line = none := by
  rw [List.getLast?_eq_head?_reverse] at h
  rw [place?]
  split
  · split
    · rename_i hreverse
      exact absurd (by rw [hreverse]; rfl) h
    · rfl
  · rfl

/-- Digits that are written in front of a colon are found from behind. -/
theorem digitsToColon?_reverse (n : Nat) (rest : List Char) :
    digitsToColon? ((decimalDigits n).reverse ++ ':' :: rest) = some ((decimalDigits n).reverse, rest) := by
  have hdigits : ∀ c ∈ (decimalDigits n).reverse, isDecimalDigit c = true := fun c hc =>
    isDecimalDigit_of_mem c (List.mem_reverse.1 hc)
  have hcolon : isDecimalDigit ':' = false := by decide
  have hne : (decimalDigits n).reverse ≠ [] := by simp [decimalDigits_ne_nil]
  rw [digitsToColon?, List.takeWhile_append_of_pos hdigits, List.dropWhile_append_of_pos hdigits,
    List.takeWhile_cons_of_neg (by simp [hcolon]), List.dropWhile_cons_of_neg (by simp [hcolon])]
  simp [decimalDigits_ne_nil]

/-- A place that is written is read back, whatever colons and digits the file has in its name. -/
theorem place?_written {b c : Char} (blanks cs : List Char) (hb : isBlank b = true)
    (hblanks : ∀ b ∈ blanks, isBlank b = true) (hc : isBlank c = false) (row column : Nat) :
    place? (b :: (blanks ++ c :: cs ++ ':' :: (decimalDigits row ++ ':' ::
        (decimalDigits column ++ [':'])))) =
      some (c :: cs, decimalDigits row, decimalDigits column) := by
  have hreverse : (b :: (blanks ++ c :: cs ++ ':' :: (decimalDigits row ++ ':' ::
        (decimalDigits column ++ [':'])))).reverse =
      ':' :: ((decimalDigits column).reverse ++ ':' :: ((decimalDigits row).reverse ++ ':' ::
        (b :: (blanks ++ c :: cs)).reverse)) := by
    simp
  have hfile : stripLeft (b :: (blanks ++ c :: cs)) = c :: cs := by
    rw [← List.cons_append, stripLeft_append (List.forall_mem_cons.2 ⟨hb, hblanks⟩), stripLeft_cons hc]
  rw [place?, hreverse]
  simp [hb, digitsToColon?_reverse, hfile]

/-! ## Excerpts -/

/-- A line is no excerpt if no bar follows the number in front. -/
theorem excerpt?_eq_none
    (h : ∀ c ∈ (stripLeft ((stripLeft line).dropWhile isDecimalDigit)).head?, isBar c = false) :
    excerpt? line = none := by
  rw [excerpt?]
  split
  · rename_i bar text hbar
    have hisBar := h bar (by rw [hbar]; rfl)
    simp [hisBar]
  · rfl

/-- An excerpt that is written is read back, without the blank behind the bar. -/
theorem excerpt?_written (hblanks : ∀ b ∈ blanks, isBlank b = true) (n : Nat) (text : List Char) :
    excerpt? (blanks ++ (decimalDigits n ++ ' ' :: '│' :: text)) =
      some (decimalDigits n, skipOne isBlank text) := by
  have hfront : stripLeft (blanks ++ (decimalDigits n ++ ' ' :: '│' :: text)) =
      decimalDigits n ++ ' ' :: '│' :: text := by
    obtain ⟨c, cs, heq, hc, -⟩ := exists_decimalDigits_eq_cons n
    rw [stripLeft_append hblanks, heq, List.cons_append, stripLeft_cons hc]
  have hspace : isDecimalDigit ' ' = false := by decide
  have hbar : stripLeft ([' '] ++ '│' :: text) = '│' :: text := by
    rw [stripLeft_append (List.forall_mem_singleton.2 (by decide)), stripLeft_cons (by decide)]
  rw [excerpt?, hfront, List.takeWhile_append_of_pos isDecimalDigit_of_mem,
    List.dropWhile_append_of_pos isDecimalDigit_of_mem,
    List.takeWhile_cons_of_neg (by simp [hspace]), List.dropWhile_cons_of_neg (by simp [hspace])]
  rw [List.singleton_append] at hbar
  simp [hbar, isBar, decimalDigits_ne_nil]

end Log
end VideoBundle
