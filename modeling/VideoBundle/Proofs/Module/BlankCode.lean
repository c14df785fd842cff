import Mathlib.Data.List.TakeWhile
import VideoBundle.Module.Comments
import VideoBundle.Proofs.Text.Trimming
import VideoBundle.Text.Lines

/-!
# Code that says nothing

Comment lines are removed by a scan in which a comment takes all blanks in front of it along, those of
empty lines above it included.  Whether anything but blanks is left can still be told line by line: the
lines are told apart at line feeds only, and a line says nothing when it is empty behind its indentation
or holds a comment there.

Main results:

- `removeFrom_comment`, `removeFrom_bare`: what the scan does at the start of a line.
- `isBlankText_remove_line`: the first line counts for itself, whatever follows.
- `isBlankCode_iff`: code is blank exactly when every line says nothing.
-/

namespace VideoBundle
namespace Comments

open Text

variable {line cs tail : List Char}

/-- Whether a line is empty or a comment behind its indentation. -/
def SaysNothing (line : List Char) : Prop :=
  stripLeft line = [] ∨ "//".toList <+: stripLeft line

/-- Whether a line can end in front of a text. -/
def EndsLine (tail : List Char) : Prop :=
  tail = [] ∨ ∃ rest, tail = '\n' :: rest

/-! ## The scan -/

/-- A comment is skipped up to its last character. -/
theorem removeFrom_skip (front : List Char) (c : Char) (cs : List Char) (lineStart : Bool) :
    removeFrom (front.length + 1) lineStart (front ++ c :: cs) = removeFrom 0 (c = '\n') cs := by
  induction front generalizing lineStart with
  | nil => rfl
  | cons d front ih => exact ih (d = '\n')

/-- A text in front of which no comment stands is scanned as if no line started there. -/
theorem removeFrom_bare (h : ¬"//".toList <+: stripLeft cs) :
    removeFrom 0 true cs = removeFrom 0 false cs := by
  cases cs with
  | nil => rfl
  | cons c cs =>
      have hnone : commentLength? (c :: cs) = none := by
        rw [← List.isPrefixOf_iff_prefix] at h
        exact if_neg h
      simp only [removeFrom, hnone]

/-- Inside a line nothing is removed. -/
theorem removeFrom_line (hline : '\n' ∉ line) (tail : List Char) :
    removeFrom 0 false (line ++ tail) = line ++ removeFrom 0 false tail := by
  induction line with
  | nil => rfl
  | cons c line ih =>
      rw [List.mem_cons, not_or] at hline
      have hc : decide (c = '\n') = false := decide_eq_false fun heq => hline.1 heq.symm
      rw [List.cons_append, removeFrom, hc, ih hline.2, List.cons_append]

/-! ## Comments -/

/-- A comment with the blanks in front of it, which may hold empty lines. -/
structure IndentedComment where
  blanks : List Char
  comment : List Char
  blank : ∀ c ∈ blanks, isBlank c = true
  oneLine : '\n' ∉ comment

namespace IndentedComment

/-- The text of an indented comment. -/
def text (i : IndentedComment) : List Char := i.blanks ++ '/' :: '/' :: i.comment

/-- Stripping takes the blanks in front of an indented comment. -/
theorem stripLeft_text (i : IndentedComment) (tail : List Char) :
    stripLeft (i.text ++ tail) = '/' :: '/' :: i.comment ++ tail := by
  rw [text, List.append_assoc, stripLeft_append i.blank]
  exact stripLeft_cons (by decide) _

/-- The last character is one of the comment. -/
theorem exists_concat (i : IndentedComment) : ∃ front c, i.text = front ++ [c] ∧ c ≠ '\n' := by
  obtain ⟨front, c, hlast⟩ := (List.eq_nil_or_concat ('/' :: i.comment)).resolve_left (by simp)
  rw [List.concat_eq_append] at hlast
  refine ⟨i.blanks ++ '/' :: front, c, by simp [text, hlast], ?_⟩
  rintro rfl
  have hmem : '\n' ∈ '/' :: i.comment := by simp [hlast]
  simp [i.oneLine] at hmem

/-- A comment is as long as its blanks and the rest of its line. -/
theorem commentLength?_text (i : IndentedComment) (htail : EndsLine tail) :
    commentLength? (i.text ++ tail) = some i.text.length := by
  have hline : ('/' :: '/' :: i.comment ++ tail).takeWhile (· != '\n') = '/' :: '/' :: i.comment := by
    have hbefore : ∀ c ∈ '/' :: '/' :: i.comment, (c != '\n') = true := by
      intro c hc
      rw [bne_iff_ne]
      rintro rfl
      simp [i.oneLine] at hc
    rw [List.takeWhile_append_of_pos hbefore]
    rcases htail with rfl | ⟨rest, rfl⟩ <;> simp
  have hlead : "//".toList.isPrefixOf ('/' :: '/' :: i.comment ++ tail) = true := by
    rw [List.isPrefixOf_iff_prefix]
    exact ⟨i.comment ++ tail, rfl⟩
  simp only [commentLength?, i.stripLeft_text, hlead, hline, if_true]
  simp only [text, List.length_append, List.length_cons]
  congr 1
  omega

end IndentedComment

/-- A match that does not end in a line feed is skipped, and no line starts behind it. -/
theorem removeFrom_match {front : List Char} {c : Char} (hc : c ≠ '\n')
    (h : commentLength? (front ++ c :: tail) = some (front.length + 1)) :
    removeFrom 0 true (front ++ c :: tail) = removeFrom 0 false tail := by
  have hend : decide (c = '\n') = false := decide_eq_false hc
  cases front with
  | nil =>
      rw [List.nil_append] at h ⊢
      simp only [removeFrom, h, hend, List.length_nil]
  | cons d front =>
      rw [List.cons_append] at h ⊢
      rw [removeFrom, h]
      exact (removeFrom_skip front c tail (d = '\n')).trans (by rw [hend])

/-- At the start of a line a comment goes with the blanks in front of it, whatever lines they span. -/
theorem removeFrom_comment (i : IndentedComment) (htail : EndsLine tail) :
    removeFrom 0 true (i.text ++ tail) = removeFrom 0 false tail := by
  have hlength := i.commentLength?_text htail
  obtain ⟨front, c, htext, hc⟩ := i.exists_concat
  rw [htext, List.append_assoc, List.singleton_append] at hlength ⊢
  rw [List.length_append, List.length_singleton] at hlength
  exact removeFrom_match hc hlength

/-- Where a comment stands behind blanks, the text is an indented comment and what ends its line. -/
theorem exists_comment (h : "//".toList <+: stripLeft cs) :
    ∃ (i : IndentedComment) (tail : List Char), cs = i.text ++ tail ∧ EndsLine tail := by
  obtain ⟨blanks, hblanks, hcs⟩ := exists_append_stripLeft cs
  obtain ⟨text, htext⟩ := h
  refine ⟨⟨blanks, text.takeWhile (· != '\n'), hblanks, ?_⟩, text.dropWhile (· != '\n'), ?_, ?_⟩
  · intro hnewline
    simpa using List.all_eq_true.1 List.all_takeWhile _ hnewline
  · rw [IndentedComment.text, List.append_assoc, List.cons_append, List.cons_append,
      List.takeWhile_append_dropWhile, hcs, ← htext]
    rfl
  · cases htail : text.dropWhile (· != '\n') with
    | nil => exact .inl rfl
    | cons c rest =>
        have hhead := List.head?_dropWhile_not (· != '\n') text
        rw [htail] at hhead
        exact .inr ⟨rest, by simpa using hhead⟩

/-! ## Lines -/

/-- At the end of a line the search for comments begins anew. -/
theorem removeFrom_newline (rest : List Char) :
    removeFrom 0 false ('\n' :: rest) = '\n' :: remove rest := rfl

/-- Nothing is left of a line that is a comment. -/
theorem remove_comment_line (h : "//".toList <+: stripLeft line) (hline : '\n' ∉ line)
    (htail : EndsLine tail) : remove (line ++ tail) = removeFrom 0 false tail := by
  obtain ⟨i, rest, rfl, rfl | ⟨more, rfl⟩⟩ := exists_comment h
  · rw [List.append_nil]
    exact removeFrom_comment i htail
  · simp at hline

/-- A blank line changes nothing: it stays, or goes with the comment below it. -/
theorem isBlankText_remove_blank_line (h : stripLeft line = []) (hline : '\n' ∉ line)
    (rest : List Char) : isBlankText (remove (line ++ '\n' :: rest)) = isBlankText (remove rest) := by
  have hblank : ∀ c ∈ line, isBlank c = true := List.dropWhile_eq_nil_iff.1 h
  by_cases hcomment : "//".toList <+: stripLeft rest
  · obtain ⟨i, tail, rfl, htail⟩ := exists_comment hcomment
    let below : IndentedComment :=
      ⟨line ++ '\n' :: i.blanks, i.comment,
        List.forall_mem_append.2 ⟨hblank, List.forall_mem_cons.2 ⟨by decide, i.blank⟩⟩, i.oneLine⟩
    have hbelow : line ++ '\n' :: (i.text ++ tail) = below.text ++ tail := by
      simp [below, IndentedComment.text]
    rw [remove, remove, hbelow, removeFrom_comment below htail, removeFrom_comment i htail]
  · have hstrip : stripLeft (line ++ '\n' :: rest) = stripLeft rest := by
      rw [stripLeft_append hblank]
      exact stripLeft_append (List.forall_mem_singleton.2 (by decide)) rest
    rw [remove, removeFrom_bare (hstrip ▸ hcomment), removeFrom_line hline, removeFrom_newline]
    have hall : line.all isBlank = true := List.all_eq_true.2 hblank
    simp [isBlankText, hall, show isBlank '\n' = true by decide]

/-- A line that says something stays. -/
theorem isBlankText_remove_code_line (h : ¬SaysNothing line) (hline : '\n' ∉ line)
    (htail : EndsLine tail) : isBlankText (remove (line ++ tail)) = false := by
  rw [SaysNothing, not_or] at h
  obtain ⟨hcode, hcomment⟩ := h
  cases hstrip : stripLeft line with
  | nil => exact absurd hstrip hcode
  | cons c code =>
      have hc : isBlank c = false := isBlank_of_stripLeft_eq_cons hstrip
      obtain ⟨blanks, hblanks, hparts⟩ := exists_append_stripLeft line
      rw [hstrip] at hparts
      subst hparts
      have hbare : ¬"//".toList <+: stripLeft (blanks ++ c :: code ++ tail) := by
        rw [hstrip] at hcomment
        rw [List.append_assoc, stripLeft_append hblanks, List.cons_append, stripLeft_cons hc]
        -- A comment that is not in the line would need a second slash behind its end.
        cases code with
        | nil => rcases htail with rfl | ⟨rest, rfl⟩ <;> simp
        | cons d code => simpa using hcomment
      rw [remove, removeFrom_bare hbare, removeFrom_line hline]
      simp [isBlankText, hc]

/-- The first line of a text counts for itself, whatever follows. -/
theorem isBlankText_remove_line (hline : '\n' ∉ line) (rest : List Char) :
    isBlankText (remove (line ++ '\n' :: rest)) = true ↔
      SaysNothing line ∧ isBlankText (remove rest) = true := by
  have htail : EndsLine ('\n' :: rest) := .inr ⟨rest, rfl⟩
  by_cases h : SaysNothing line
  · rw [and_iff_right h]
    rcases h with hblank | hcomment
    · rw [isBlankText_remove_blank_line hblank hline]
    · rw [remove_comment_line hcomment hline htail, removeFrom_newline]
      simp [isBlankText, show isBlank '\n' = true by decide]
  · rw [isBlankText_remove_code_line h hline htail]
    simp [h]

/-- The last line of a text counts for itself. -/
theorem isBlankText_remove_last_line (hline : '\n' ∉ line) :
    isBlankText (remove line) = true ↔ SaysNothing line := by
  have hend : EndsLine [] := .inl rfl
  by_cases h : SaysNothing line
  · refine iff_of_true ?_ h
    rcases h with hblank | hcomment
    · have hbare : ¬"//".toList <+: stripLeft line := by
        rw [hblank]
        decide
      have hsame := removeFrom_line hline []
      rw [List.append_nil, removeFrom, List.append_nil] at hsame
      rw [remove, removeFrom_bare hbare, hsame, isBlankText, List.all_eq_true]
      exact List.dropWhile_eq_nil_iff.1 hblank
    · rw [← List.append_nil line, remove_comment_line hcomment hline hend]
      rfl
  · have hcode := isBlankText_remove_code_line h hline hend
    rw [List.append_nil] at hcode
    simp [hcode, h]

/-- Text without its comment lines is blank exactly when each of its lines says nothing. -/
theorem isBlankText_remove_iff (cs : List Char) :
    isBlankText (remove cs) = true ↔ ∀ line ∈ splitWhere (· = '\n') cs, SaysNothing line := by
  have huncut {line : List Char} (hline : '\n' ∉ line) : ∀ c ∈ line, decide (c = '\n') = false :=
    fun c hc => decide_eq_false fun heq => hline (heq ▸ hc)
  by_cases hcut : '\n' ∈ cs
  · obtain ⟨line, rest, hcs, hline⟩ := List.eq_append_cons_of_mem hcut
    have hshorter : rest.length < cs.length := by
      rw [hcs, List.length_append, List.length_cons]
      omega
    have ih := isBlankText_remove_iff rest
    rw [hcs, splitWhere_append_cons (huncut hline) (decide_eq_true rfl), List.forall_mem_cons,
      isBlankText_remove_line hline, ih]
  · rw [splitWhere_of_uncut (huncut hcut), List.forall_mem_singleton, isBlankText_remove_last_line hcut]
termination_by cs.length

/-- Code is blank exactly when every line, told apart at line feeds only, is empty or a comment behind
its indentation. -/
theorem isBlankCode_iff (code : String) :
    isBlankCode code = true ↔
      ∀ line ∈ splitWhere (· = '\n') code.toList,
        stripLeft line = [] ∨ "//".toList <+: stripLeft line :=
  isBlankText_remove_iff code.toList

/-- A carriage return does not end a comment, a line feed does. -/
example : isBlankCode "\n \u2028\n\t// a\r x" = true ∧ isBlankCode "// a\n x" = false := by
  decide +kernel

end Comments
end VideoBundle
