import VideoBundle.Proofs.Bundler.Printed
import VideoBundle.Proofs.Module.NameSearch

/-!
# Imports on one line

Statements that import a list of names from a specifier, each on a line of its own, and what the
search for a name does in one of them.  The search goes through the part in front of the specifier,
from the last keyword on; a keyword inside a listed name counts too, and hides the names in front
of it.

Main results:

- `standsAt_lead`: where a name stands in a statement: where it is listed, and where it is a keyword.
- `start_eq_zero_iff`, `start_le_column_iff`: when the search starts with the statement, and when it
  starts in front of a listed name.
- `find?_listed`, `find?_eq_some_of_not_mem`, `find?_eq_none_iff`: what is found in a statement.
-/

namespace VideoBundle

open Text ImportSite
open Esm (Identifier)

/-! ## Parts with a separator -/

namespace Text

/-- A list of parts is its first part, and the others with a separator in front of each. -/
theorem intercalate_cons {α : Type} (sep part : List α) (parts : List (List α)) :
    sep.intercalate (part :: parts) = part ++ parts.flatMap (sep ++ ·) := by
  induction parts generalizing part with
  | nil => simp
  | cons next parts ih =>
      rw [List.intercalate_cons_cons, ih, List.flatMap_cons, List.append_assoc]
      simp

/-- A list of parts, seen from one of them. -/
theorem intercalate_append_cons {α : Type} (sep part : List α) (before after : List (List α)) :
    sep.intercalate (before ++ part :: after) =
      before.flatMap (· ++ sep) ++ (part ++ after.flatMap (sep ++ ·)) := by
  induction before with
  | nil => exact intercalate_cons sep part after
  | cons first before ih =>
      rw [List.cons_append, List.flatMap_cons, List.append_assoc, ← ih]
      cases before with
      | nil => rw [List.nil_append, List.intercalate_cons_cons, List.append_assoc]
      | cons next before =>
          rw [List.cons_append, List.intercalate_cons_cons, List.append_assoc]

end Text

/-! ## Statements -/

/-- An import of a list of names on one line, from a specifier without quotes and escapes. -/
structure ImportLine where
  names : List Identifier
  specifier : String
  plain : ∀ c ∈ specifier.toList, c ≠ '"' ∧ c ≠ '\'' ∧ c ≠ '\\' ∧ c ≠ '\n'

namespace ImportLine

/-- What stands in front of the list. -/
def opening : List Char := "import".toList ++ [' ', '\x7b', ' ']

/-- What stands between the list and the specifier. -/
def closing : List Char := [' ', '\x7d', ' '] ++ "from".toList ++ [' ']

/-- The part of the statement in front of the specifier. -/
def lead (l : ImportLine) : List Char :=
  opening ++ [',', ' '].intercalate (l.names.map Identifier.text) ++ closing

/-- The line of the statement. -/
def text (l : ImportLine) : List Char :=
  l.lead ++ '"' :: l.specifier.toList ++ ['"', ';']

/-- Names in a list, with what separates each from the name behind it. -/
def separated (names : List Identifier) : List Char :=
  names.flatMap fun name => name.text ++ [',', ' ']

/-- A name takes its length and the two characters that separate it. -/
@[simp]
theorem length_separated_cons (name : Identifier) (names : List Identifier) :
    (separated (name :: names)).length = name.text.length + 2 + (separated names).length := by
  simp only [separated, List.flatMap_cons, List.length_append, List.length_cons, List.length_nil]

/-- The column of the list item behind some names. -/
def column (before : List Identifier) : Nat :=
  (opening ++ separated before).length

/-! ## The text of a list -/

/-- What stands behind the first word of a list: the other names, and the end of the lead. -/
def behindWord (others : List Identifier) : List Char :=
  others.flatMap (fun name => [',', ' '] ++ name.text) ++ closing

theorem behindWord_cons (name : Identifier) (others : List Identifier) :
    behindWord (name :: others) = ',' :: ' ' :: (name.text ++ behindWord others) := by
  simp [behindWord]

/-- The lead in front of a name in the list, and what is behind it. -/
theorem lead_of_names {l : ImportLine} {before after : List Identifier} {name : Identifier}
    (h : l.names = before ++ name :: after) :
    l.lead = opening ++ separated before ++ (name.text ++ behindWord after) := by
  rw [lead, h, List.map_append, List.map_cons, intercalate_append_cons, behindWord, separated,
    List.flatMap_map, List.flatMap_map]
  simp only [List.append_assoc]

/-- The first word of a list; an empty list counts as one with an empty word. -/
def firstWord (l : ImportLine) : List Char :=
  (l.names.head?.map Identifier.text).getD []

/-- A lead is its opening, a first word, and what is behind it. -/
theorem lead_eq (l : ImportLine) :
    l.lead = opening ++ (l.firstWord ++ behindWord l.names.tail) := by
  rw [firstWord]
  cases hnames : l.names with
  | nil => rw [lead, hnames, behindWord]; simp
  | cons name others =>
      have hlead := lead_of_names (hnames.trans (List.nil_append _).symm)
      simpa [separated] using hlead

/-! ## Where a name stands -/

/-- A name is listed so many characters behind the start of a list. -/
def ListedAt (n : Identifier) (names : List Identifier) (i : Nat) : Prop :=
  ∃ before after, names = before ++ n :: after ∧ i = (separated before).length

theorem not_listedAt_nil (n : Identifier) (i : Nat) : ¬ListedAt n [] i := by
  rintro ⟨before, after, h, -⟩
  simp at h

/-- A name stands first in the list, or behind the first name and its separator. -/
theorem listedAt_cons {n name : Identifier} {others : List Identifier} {i : Nat} :
    ListedAt n (name :: others) i ↔
      (i = 0 ∧ name.text = n.text) ∨
        ∃ j, i = name.text.length + 2 + j ∧ ListedAt n others j := by
  constructor
  · rintro ⟨before, after, hnames, rfl⟩
    cases before with
    | nil =>
        obtain ⟨rfl, -⟩ := List.cons.inj hnames
        exact .inl ⟨rfl, rfl⟩
    | cons first before =>
        obtain ⟨rfl, hothers⟩ := List.cons.inj hnames
        exact .inr ⟨_, length_separated_cons name before, before, after, hothers, rfl⟩
  · rintro (⟨rfl, hname⟩ | ⟨j, rfl, before, after, rfl, rfl⟩)
    · obtain rfl : name = n := by
        cases name
        cases n
        simpa using hname
      exact ⟨[], others, rfl, rfl⟩
    · exact ⟨name :: before, after, rfl, (length_separated_cons name before).symm⟩

theorem ListedAt.mem {n : Identifier} {names : List Identifier} {i : Nat}
    (h : ListedAt n names i) : n ∈ names := by
  obtain ⟨before, after, rfl, -⟩ := h
  simp

variable (n : Identifier)

theorem isNameChar_space : isNameChar ' ' = false := by decide +kernel

theorem isNameChar_openingBrace : isNameChar '\x7b' = false := by decide +kernel

theorem isNameChar_closingBrace : isNameChar '\x7d' = false := by decide +kernel

/-- An identifier is made of name characters. -/
theorem isNameChar_of_mem : ∀ c ∈ n.text, isNameChar c = true := fun c hc => by
  simpa using n.avoids (q := fun c => !isNameChar c) (by decide +kernel) c hc

/-- Where a name stands behind the list. -/
theorem standsAt_closing {word : List Char} (hword : ∀ c ∈ word, isNameChar c = true) (i : Nat) :
    StandsAt n.text false (word ++ closing) i ↔
      (i = 0 ∧ word = n.text) ∨
        (n.text = "from".toList ∧ i + 5 = (word ++ closing).length) := by
  have hname := isNameChar_of_mem n
  have hfrom : ∀ j, StandsAt n.text false ("from".toList ++ [' ']) j ↔
      j = 0 ∧ "from".toList = n.text := fun j => by
    rw [standsAt_word hname (by decide +kernel) isNameChar_space, or_iff_left]
    rintro ⟨k, -, hk⟩
    exact not_standsAt_nil n.ne_nil k hk
  have hlength : (word ++ closing).length = word.length + 8 := by
    rw [List.length_append]
    rfl
  have hclosing : word ++ closing = word ++ ' ' :: '\x7d' :: ' ' :: ("from".toList ++ [' ']) := rfl
  rw [hlength, hclosing, standsAt_word hname hword isNameChar_space]
  simp only [standsAt_gap hname n.ne_nil isNameChar_closingBrace,
    standsAt_gap hname n.ne_nil isNameChar_space, hfrom]
  refine or_congr_right ⟨?_, ?_⟩
  · rintro ⟨_, rfl, _, rfl, _, rfl, rfl, hn⟩
    exact ⟨hn.symm, by omega⟩
  · rintro ⟨hn, hi⟩
    exact ⟨2, by omega, 1, rfl, 0, rfl, rfl, hn.symm⟩

/-- Where a name stands in a list and behind it. -/
theorem standsAt_behindWord {word : List Char} (hword : ∀ c ∈ word, isNameChar c = true)
    (others : List Identifier) (i : Nat) :
    StandsAt n.text false (word ++ behindWord others) i ↔
      (i = 0 ∧ word = n.text) ∨ (∃ j, i = word.length + 2 + j ∧ ListedAt n others j) ∨
        (n.text = "from".toList ∧ i + 5 = (word ++ behindWord others).length) := by
  induction others generalizing word i with
  | nil =>
      rw [behindWord, List.flatMap_nil, List.nil_append, standsAt_closing n hword]
      simp [not_listedAt_nil]
  | cons name others ih =>
      have hname := isNameChar_of_mem n
      rw [behindWord_cons, standsAt_word hname hword (by decide +kernel)]
      simp only [standsAt_gap hname n.ne_nil isNameChar_space, ih (isNameChar_of_mem name),
        listedAt_cons, List.length_append, List.length_cons]
      refine or_congr_right ⟨?_, ?_⟩
      · rintro ⟨_, rfl, k, rfl, hfirst | hlisted | ⟨hn, hk⟩⟩
        · exact .inl ⟨k, by omega, .inl hfirst⟩
        · exact .inl ⟨k, by omega, .inr hlisted⟩
        · exact .inr ⟨hn, by omega⟩
      · rintro (⟨k, rfl, hlisted⟩ | ⟨hn, hi⟩)
        · exact ⟨1 + k, by omega, k, rfl, hlisted.imp_right .inl⟩
        · refine ⟨1 + (i - (word.length + 2)), ?_, _, rfl, .inr (.inr ⟨hn, ?_⟩)⟩
          all_goals
            have : closing.length = 8 := rfl
            simp only [behindWord, List.length_append] at hi ⊢
            omega

/-- The first word of a line is made of name characters. -/
theorem isNameChar_of_mem_firstWord (l : ImportLine) : ∀ c ∈ l.firstWord, isNameChar c = true := by
  rw [firstWord]
  cases l.names with
  | nil => exact List.forall_mem_nil _
  | cons name others => exact isNameChar_of_mem name

/-- A name stands as the first word, or behind it among the others. -/
theorem listedAt_names (l : ImportLine) (i : Nat) :
    ListedAt n l.names i ↔
      (i = 0 ∧ l.firstWord = n.text) ∨
        ∃ j, i = l.firstWord.length + 2 + j ∧ ListedAt n l.names.tail j := by
  rw [firstWord]
  cases l.names with
  | nil => simp [not_listedAt_nil, n.ne_nil.symm]
  | cons name others => exact listedAt_cons

theorem isNameChar_of_mem_import : ∀ c ∈ "import".toList, isNameChar c = true :=
  isNameChar_of_mem ⟨['i', 'm', 'p', 'o', 'r', 't'], by decide⟩

theorem opening_append (rest : List Char) :
    opening ++ rest = "import".toList ++ ' ' :: '\x7b' :: ' ' :: rest :=
  List.append_assoc _ _ _

/-- A name stands in a statement where it is listed, and where it is one of the two keywords. -/
theorem standsAt_lead (l : ImportLine) (i : Nat) :
    StandsAt n.text false l.lead i ↔
      (i = 0 ∧ n.text = "import".toList) ∨
        (∃ j, i = opening.length + j ∧ ListedAt n l.names j) ∨
          (n.text = "from".toList ∧ i + 5 = l.lead.length) := by
  have hname := isNameChar_of_mem n
  have hopening : opening.length = 9 := rfl
  have hlength : l.lead.length = 9 + (l.firstWord ++ behindWord l.names.tail).length := by
    rw [lead_eq, List.length_append, hopening]
  rw [hlength, hopening, lead_eq, opening_append,
    standsAt_word hname isNameChar_of_mem_import isNameChar_space, eq_comm (b := n.text)]
  simp only [standsAt_gap hname n.ne_nil isNameChar_openingBrace,
    standsAt_gap hname n.ne_nil isNameChar_space,
    standsAt_behindWord n (isNameChar_of_mem_firstWord l), listedAt_names]
  have himport : "import".toList.length = 6 := rfl
  rw [himport]
  refine or_congr_right ⟨?_, ?_⟩
  · rintro ⟨_, rfl, _, rfl, j, rfl, hfirst | hlisted | ⟨hn, hj⟩⟩
    · exact .inl ⟨j, by omega, .inl hfirst⟩
    · exact .inl ⟨j, by omega, .inr hlisted⟩
    · exact .inr ⟨hn, by omega⟩
  · rintro (⟨j, rfl, hlisted⟩ | ⟨hn, hi⟩)
    · exact ⟨2 + j, by omega, 1 + j, by omega, j, rfl, hlisted.imp_right .inl⟩
    · have hclosing : closing.length = 8 := rfl
      refine ⟨i - 7, ?_, i - 8, ?_, i - 9, ?_, .inr (.inr ⟨hn, ?_⟩)⟩
      all_goals
        simp only [behindWord, List.length_append] at hi ⊢
        omega

/-! ## Keywords in a statement -/

/-- What closes the braces mentions no keyword. -/
theorem mentionsKeyword_closing (word : List Char) :
    MentionsKeyword (word ++ closing) ↔ MentionsKeyword word := by
  have hclosing : word ++ closing = word ++ ' ' :: ([] ++ '\x7d' :: ([] ++ ' ' ::
    ("from".toList ++ ' ' :: []))) := rfl
  have hnil : ¬MentionsKeyword [] := by decide
  have hfrom : ¬MentionsKeyword "from".toList := by decide
  rw [hclosing]
  repeat rw [mentionsKeyword_append_cons (by decide)]
  simp only [hnil, hfrom, or_false]

/-- The keywords behind the start of a list are those inside its words. -/
theorem mentionsKeyword_behindWord (word : List Char) (others : List Identifier) :
    MentionsKeyword (word ++ behindWord others) ↔
      MentionsKeyword word ∨ ∃ name ∈ others, MentionsKeyword name.text := by
  induction others generalizing word with
  | nil => simpa [behindWord] using mentionsKeyword_closing word
  | cons name others ih =>
      have hnil : ¬MentionsKeyword [] := by decide
      rw [behindWord_cons, mentionsKeyword_append_cons (by decide),
        ← List.nil_append (' ' :: _), mentionsKeyword_append_cons (by decide), ih]
      simp [hnil]

/-- The position in a statement from which a name is searched. -/
def start (l : ImportLine) : Nat :=
  (statementStart? l.lead).getD 0

/-- The statement that is found in a lead is the last one that starts there. -/
theorem statementStart?_lead (l : ImportLine) : statementStart? l.lead = some l.start := by
  rw [start]
  cases hstart : statementStart? l.lead with
  | some => rfl
  | none =>
      have hlead : "import".toList <:+: l.lead := by
        rw [lead_eq, opening_append]
        exact (List.prefix_append _ _).isInfix
      exact absurd (.inl hlead) (statementStart?_eq_none_iff.1 hstart)

/-- The keyword at the start ends inside the lead. -/
theorem start_add_le (l : ImportLine) : l.start + 6 ≤ l.lead.length :=
  statementStart?_add_le (statementStart?_lead l)

/-- The search starts with the statement exactly when no listed name mentions a keyword. -/
theorem start_eq_zero_iff (l : ImportLine) :
    l.start = 0 ↔ ∀ name ∈ l.names, ¬MentionsKeyword name.text := by
  have hdrop : l.lead.drop (0 + 1) = "mport".toList ++ ' ' :: ([] ++ '\x7b' :: ([] ++ ' ' ::
      (l.firstWord ++ behindWord l.names.tail))) := by
    rw [lead_eq, opening_append]
    rfl
  have hnil : ¬MentionsKeyword [] := by decide
  have hmport : ¬MentionsKeyword "mport".toList := by decide
  rw [← Nat.le_zero, statementStart?_le_iff (statementStart?_lead l), hdrop]
  repeat rw [mentionsKeyword_append_cons (by decide)]
  rw [mentionsKeyword_behindWord, firstWord]
  simp only [hnil, hmport, false_or]
  cases l.names with
  | nil => simp [hnil]
  | cons name others => simp

/-- The search starts no further than at a listed name exactly when no keyword is behind the first
character of the name in the list. -/
theorem start_le_column_iff {l : ImportLine} {before after : List Identifier} {n : Identifier}
    (h : l.names = before ++ n :: after) :
    l.start ≤ column before ↔
      ¬MentionsKeyword n.text.tail ∧ ∀ name ∈ after, ¬MentionsKeyword name.text := by
  have hdrop : l.lead.drop (column before + 1) = n.text.tail ++ behindWord after := by
    rw [lead_of_names h, column, List.drop_length_add_append, List.drop_one,
      List.tail_append_of_ne_nil n.ne_nil]
  rw [statementStart?_le_iff (statementStart?_lead l), hdrop, mentionsKeyword_behindWord, not_or]
  simp only [not_exists, not_and]

/-! ## What is found in a statement -/

/-- The position in a statement where a name is found. -/
def find? (l : ImportLine) : Option Nat :=
  nameInStatement? l.lead n.text l.start l.lead.length

/-- A name is found between the start of the statement and the end of the lead. -/
theorem bounds_of_find? {l : ImportLine} {i : Nat} (h : l.find? n = some i) :
    l.start ≤ i ∧ i ≤ l.lead.length := by
  have hstart : l.start ≤ l.lead.length := Nat.le_of_add_right_le l.start_add_le
  obtain ⟨hle, hstands, -⟩ := (nameInStatement?_eq_some_iff hstart).1 h
  exact ⟨hle, length_le_of_standsAt hstands⟩

theorem mentionsKeyword_import : MentionsKeyword "import".toList :=
  .inl (List.infix_refl _)

variable {n}

/-- The first place where a name is listed has the fewest names in front of it. -/
theorem ListedAt.length_le {before after : List Identifier} (hfirst : n ∉ before) {i : Nat}
    (h : ListedAt n (before ++ n :: after) i) : (separated before).length ≤ i := by
  obtain ⟨front, back, hnames, rfl⟩ := h
  rcases List.append_eq_append_iff.1 hnames with ⟨more, rfl, -⟩ | ⟨more, rfl, hmore⟩
  · simp [separated]
  · cases more with
    | nil => simp
    | cons first more =>
        obtain ⟨rfl, -⟩ := List.cons.inj hmore
        simp at hfirst

/-- A listed name is found where it is listed first, if the search starts in front of it. -/
theorem find?_listed {l : ImportLine} {before after : List Identifier}
    (h : l.names = before ++ n :: after) (hfirst : n ∉ before) (hstart : l.start ≤ column before) :
    l.find? n = some (column before) := by
  have hlength : l.lead.length = column before + (n.text ++ behindWord after).length := by
    rw [lead_of_names h, List.length_append, column]
  have hclosing : closing.length = 8 := rfl
  simp only [behindWord, List.length_append, hclosing] at hlength
  rw [find?, nameInStatement?_eq_some_iff (by omega)]
  have hlisted : StandsAt n.text false l.lead (column before) :=
    (standsAt_lead n l _).2 (.inr (.inl ⟨_, List.length_append, before, after, h, rfl⟩))
  refine ⟨hstart, hlisted, fun j hj hlt hstands => ?_⟩
  rcases (standsAt_lead n l j).1 hstands with ⟨rfl, hn⟩ | ⟨k, rfl, hlisted⟩ | ⟨-, hfrom⟩
  · -- The name `import` is a keyword itself: it is listed, so the search starts further on.
    have hplain := (start_eq_zero_iff l).1 (Nat.le_zero.1 hj) n (by simp [h])
    exact hplain (hn ▸ mentionsKeyword_import)
  · rw [h] at hlisted
    have := hlisted.length_le hfirst
    rw [column, List.length_append] at hlt
    omega
  · omega

/-- A name that is not listed is only found as one of the two keywords of the statement. -/
theorem find?_eq_some_of_not_mem {l : ImportLine} (hn : n ∉ l.names) {i : Nat}
    (h : l.find? n = some i) :
    (i = 0 ∧ l.start = 0 ∧ n.text = "import".toList) ∨
      (n.text = "from".toList ∧ i + 5 = l.lead.length) := by
  have hstart : l.start ≤ l.lead.length := Nat.le_of_add_right_le l.start_add_le
  obtain ⟨hle, hstands, -⟩ := (nameInStatement?_eq_some_iff hstart).1 h
  rcases (standsAt_lead n l i).1 hstands with ⟨rfl, himport⟩ | ⟨_, -, hlisted⟩ | hfrom
  · exact .inl ⟨rfl, Nat.le_zero.1 hle, himport⟩
  · exact absurd hlisted.mem hn
  · exact .inr hfrom

/-- A name that is not listed is not found unless it is one of the two keywords of the statement, and
the search passes it. -/
theorem find?_eq_none_iff {l : ImportLine} (hn : n ∉ l.names) :
    l.find? n = none ↔ n.text ≠ "from".toList ∧ (n.text = "import".toList → l.start ≠ 0) := by
  have hstart := l.start_add_le
  rw [find?, nameInStatement?_eq_none_iff (by omega)]
  constructor
  · intro h
    constructor
    · intro hfrom
      refine h (l.lead.length - 5) (by omega) ((standsAt_lead n l _).2 ?_)
      exact .inr (.inr ⟨hfrom, by omega⟩)
    · intro himport hzero
      exact h 0 (Nat.le_of_eq hzero) ((standsAt_lead n l 0).2 (.inl ⟨rfl, himport⟩))
  · rintro ⟨hfrom, himport⟩ i hi hstands
    rcases (standsAt_lead n l i).1 hstands with ⟨rfl, hn'⟩ | ⟨_, -, hlisted⟩ | ⟨hn', -⟩
    · exact himport hn' (Nat.le_zero.1 hi)
    · exact hn hlisted.mem
    · exact hfrom hn'

end ImportLine
end VideoBundle
