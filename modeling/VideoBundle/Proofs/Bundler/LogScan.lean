import Mathlib.Data.List.TakeWhile
import VideoBundle.Proofs.Bundler.LogLines
import VideoBundle.Proofs.Outcomes

/-!
# Logs read line by line

A log can be read in one pass.  Beside the diagnostics that are finished one is open, and every line adds
to the open one what it says; blank lines and lines that count errors are left out before anything else is
asked of them.  A header finishes the open diagnostic and opens the next.

Main results:

- `note_of_isBlankText`, `note_of_isCount`: the lines that are left out say nothing anyway.
- `step_header`, `step_behind`: a header forgets what was read, except for what is finished.
- `diagnostics_run`: line by line a log is read as it is block by block.
-/

namespace VideoBundle
namespace Log

open Text

/-! ## Counts -/

/-- What stands behind a number and one of some words in the singular or the plural. -/
def afterCount? (words : List (List Char)) (cs : List Char) : Option (List Char) :=
  match cs.takeWhile isDecimalDigit, cs.dropWhile isDecimalDigit with
  | _ :: _, ' ' :: rest => (words.findSome? (afterLead? · rest)).map (skipOne (· = 's'))
  | _, _ => none

/-- Whether a text counts errors or warnings, or the one and the other. -/
def isCount (cs : List Char) : Bool :=
  match afterCount? ["error".toList, "warning".toList] cs with
  | none => false
  | some [] => true
  | some rest => ((afterLead? " and ".toList rest).bind (afterCount? ["warning".toList])) = some []

/-! ## One line -/

/-- The diagnostic that a header opens. -/
def opened (text : String) : Diagnostic := ⟨text, none, none, none, none⟩

/-- A diagnostic with what a line below its header adds. -/
def note (d : Diagnostic) (line : Line) : Except TooManyDigits Diagnostic :=
  if d.file = none then
    match place? line with
    | none => .ok d
    | some (file, row, column) => do
        let row ← naturalOfDigits row
        let column ← naturalOfDigits column
        return { d with file := some (String.ofList file), line := some row, column := some column }
  else if d.lineText = none then
    match excerpt? line with
    | none => .ok d
    | some (ds, text) => do
        let number ← naturalOfDigits ds
        return if d.line = some (number : Int) then { d with lineText := some (String.ofList text) }
          else d
  else .ok d

/-- What was read of a log: the finished diagnostics and the one that is open. -/
structure Scan where
  finished : List Diagnostic
  current : Option Diagnostic

namespace Scan

/-- Nothing was read. -/
def start : Scan := ⟨[], none⟩

/-- All diagnostics, when nothing follows. -/
def diagnostics (s : Scan) : List Diagnostic := s.finished ++ s.current.toList

/-- What was read with one more line. -/
def step (s : Scan) (line : Line) : Except TooManyDigits Scan :=
  match header? line with
  | some text => .ok ⟨s.diagnostics, some (opened (String.ofList text))⟩
  | none =>
      match s.current with
      | none => .ok s
      | some d =>
          if isBlankText line || isCount (strip line) then .ok s
          else (note d line).map fun d => { s with current := some d }

/-- What was read with some more lines. -/
def run (s : Scan) (lines : List Line) : Except TooManyDigits Scan := lines.foldlM step s

/-- What was read behind diagnostics that were finished before. -/
def behind (front : List Diagnostic) (s : Scan) : Scan := { s with finished := front ++ s.finished }

end Scan

/-! ## Lines that are left out -/

/-- A line that is neither a location nor an excerpt leaves the record as it is. -/
theorem note_eq_self {line : Line} (hplace : place? line = none) (hexcerpt : excerpt? line = none)
    (d : Diagnostic) : note d line = .ok d := by
  unfold note
  rw [hplace, hexcerpt]
  split
  · rfl
  · split <;> rfl

/-- A blank line says nothing. -/
theorem note_of_isBlankText {line : Line} (h : isBlankText line = true) (d : Diagnostic) :
    note d line = .ok d := by
  rw [isBlankText, List.all_eq_true] at h
  have hlast : line.getLast? ≠ some ':' := fun hcolon =>
    absurd (h ':' (List.mem_of_getLast? hcolon)) (by decide)
  have hnothing : stripLeft line = [] := List.dropWhile_eq_nil_iff.2 h
  refine note_eq_self (place?_eq_none hlast) (excerpt?_eq_none ?_) d
  rw [hnothing]
  simp [stripLeft]

/-- A text with a count at its start. -/
theorem afterCount?_eq_some {words : List (List Char)} {cs rest : List Char}
    (h : afterCount? words cs = some rest) :
    ∃ ds word tail, (∀ c ∈ ds, isDecimalDigit c = true) ∧ word ∈ words ∧
      (tail = rest ∨ tail = 's' :: rest) ∧ cs = ds ++ ' ' :: (word ++ tail) := by
  unfold afterCount? at h
  split at h
  · rename_i d ds more htake hdrop
    obtain ⟨tail, hword, hplural⟩ := Option.map_eq_some_iff.1 h
    obtain ⟨word, hmem, hlead⟩ := List.exists_of_findSome?_eq_some hword
    rw [afterLead?_eq_some_iff] at hlead
    refine ⟨d :: ds, word, tail, ?digits, hmem, ?plural, ?parts⟩
    case digits =>
      rw [← htake]
      exact fun c hc => List.all_eq_true.1 List.all_takeWhile c hc
    case plural =>
      cases tail with
      | nil => exact .inl hplural
      | cons c tail =>
          rw [skipOne] at hplural
          split at hplural
          · rename_i hs
            rw [of_decide_eq_true hs, hplural]
            exact .inr rfl
          · exact .inl hplural
    case parts => rw [← hlead, ← htake, ← hdrop, List.takeWhile_append_dropWhile]
  · cases h

/-- A count ends in a letter. -/
theorem getLast?_of_afterCount? {words : List (List Char)} {cs : List Char}
    (hwords : ∀ word ∈ words, ∃ c ∈ word.getLast?, c ≠ ':') (h : afterCount? words cs = some []) :
    ∃ c ∈ cs.getLast?, c ≠ ':' := by
  obtain ⟨ds, word, tail, -, hmem, htail, rfl⟩ := afterCount?_eq_some h
  rcases htail with rfl | rfl
  · obtain ⟨c, hlast, hne⟩ := hwords word hmem
    exact ⟨c, by simp [List.getLast?_append, List.getLast?_cons, Option.mem_def.1 hlast], hne⟩
  · exact ⟨'s', by simp [List.getLast?_append, List.getLast?_cons], by decide⟩

/-- A count stands alone, or in front of a count of warnings. -/
theorem isCount_cases {cs : List Char} (h : isCount cs = true) :
    ∃ rest, afterCount? ["error".toList, "warning".toList] cs = some rest ∧
      (rest = [] ∨ ∃ second, rest = " and ".toList ++ second ∧
        afterCount? ["warning".toList] second = some []) := by
  unfold isCount at h
  split at h
  · cases h
  · rename_i hcount
    exact ⟨[], hcount, .inl rfl⟩
  · rename_i rest _ hcount
    obtain ⟨second, hlead, hsecond⟩ := Option.bind_eq_some_iff.1 (of_decide_eq_true h)
    exact ⟨rest, hcount, .inr ⟨second, afterLead?_eq_some_iff.1 hlead, hsecond⟩⟩

/-- A count ends in a letter, and a letter stands behind the number in front. -/
theorem exists_of_isCount {cs : List Char} (h : isCount cs = true) :
    (∃ c ∈ cs.getLast?, c ≠ ':') ∧ ∃ ds c more, (∀ c ∈ ds, isDecimalDigit c = true) ∧
      cs = ds ++ ' ' :: c :: more ∧ (c = 'e' ∨ c = 'w') := by
  have hwords : ∀ word ∈ ["error".toList, "warning".toList],
      (∃ c ∈ word.getLast?, c ≠ ':') ∧ ∃ c more, word = c :: more ∧ (c = 'e' ∨ c = 'w') := by
    simp
  obtain ⟨rest, hcount, hrest⟩ := isCount_cases h
  obtain ⟨ds, word, tail, hds, hmem, htail, hparts⟩ := afterCount?_eq_some hcount
  obtain ⟨-, c, more, hword, hc⟩ := hwords word hmem
  refine ⟨?last, ds, c, more ++ tail, hds, by rw [hparts, hword]; rfl, hc⟩
  rcases hrest with rfl | ⟨second, rfl, hsecond⟩
  · exact getLast?_of_afterCount? (fun word hmem => (hwords word hmem).1) hcount
  · obtain ⟨last, hlast, hne⟩ := getLast?_of_afterCount? (by simp) hsecond
    obtain ⟨front, rfl⟩ : ∃ front, cs = front ++ second := by
      rcases htail with rfl | rfl
      · exact ⟨ds ++ ' ' :: (word ++ " and ".toList), by simp [hparts]⟩
      · exact ⟨ds ++ ' ' :: (word ++ 's' :: " and ".toList), by simp [hparts]⟩
    exact ⟨last, by simp [List.getLast?_append, Option.mem_def.1 hlast], hne⟩

/-- A character at the end that is not blank is not stripped. -/
theorem strip_concat {c : Char} (hc : isBlank c = false) (cs : List Char) :
    strip (cs ++ [c]) = stripLeft cs ++ [c] := by
  have hleft : stripLeft (cs ++ [c]) = stripLeft cs ++ [c] := by
    rw [stripLeft, List.dropWhile_append]
    split
    · rename_i hempty
      rw [stripLeft, List.isEmpty_iff.1 hempty]
      simp [hc]
    · rfl
  rw [strip, hleft, stripRight_concat hc]

/-- A count says nothing. -/
theorem note_of_isCount {line : Line} (h : isCount (strip line) = true) (d : Diagnostic) :
    note d line = .ok d := by
  obtain ⟨⟨last, hlast, hne⟩, ds, c, more, hds, hparts, hc⟩ := exists_of_isCount h
  have hcolon : line.getLast? ≠ some ':' := by
    intro hcolon
    obtain ⟨front, rfl⟩ := List.getLast?_eq_some_iff.1 hcolon
    rw [strip_concat (by decide), Option.mem_def] at hlast
    exact hne (by simpa using hlast.symm)
  obtain ⟨back, hback⟩ : strip line <+: stripLeft line := by
    rw [strip, stripRight, dropRightWhile, ← List.reverse_suffix, List.reverse_reverse]
    exact List.dropWhile_suffix isBlank
  refine note_eq_self (place?_eq_none hcolon) (excerpt?_eq_none ?_) d
  have hspace : isDecimalDigit ' ' = false := by decide
  have hletter : isBlank c = false ∧ isBar c = false := by
    rcases hc with rfl | rfl <;> decide
  rw [← hback, hparts, List.append_assoc, List.dropWhile_append_of_pos hds, List.cons_append,
    List.dropWhile_cons_of_neg (by simp [hspace]), List.cons_append, ← List.singleton_append,
    stripLeft_append (List.forall_mem_singleton.2 (by decide)), stripLeft_cons hletter.1]
  simpa using hletter.2

/-! ## Steps and runs -/

/-- Whether the first of some lines is a header. -/
def OpensBlock (ls : List Line) : Prop := ∃ line ∈ ls.head?, header? line ≠ none

/-- Lines that open a block begin with a header. -/
theorem OpensBlock.exists_eq_cons {ls : List Line} (h : OpensBlock ls) :
    ∃ line more text, ls = line :: more ∧ header? line = some text := by
  obtain ⟨line, hline, hheader⟩ := h
  obtain ⟨text, htext⟩ := Option.ne_none_iff_exists'.1 hheader
  obtain ⟨more, rfl⟩ := List.head?_eq_some_iff.1 hline
  exact ⟨line, more, text, rfl, htext⟩

namespace Scan

variable {line : Line} {s : Scan} {text : List Char}

/-- A header finishes the open diagnostic and opens the next, whatever was read. -/
theorem step_header (h : header? line = some text) (s : Scan) :
    s.step line = .ok ⟨s.diagnostics, some (opened (String.ofList text))⟩ := by
  rw [step, h]

/-- In front of the first header nothing is read. -/
theorem step_closed (h : header? line = none) (finished : List Diagnostic) :
    step ⟨finished, none⟩ line = .ok ⟨finished, none⟩ := by
  rw [step, h]

/-- Any other line adds what it says to the open diagnostic. -/
theorem step_open (h : header? line = none) (finished : List Diagnostic) (d : Diagnostic) :
    step ⟨finished, some d⟩ line = (note d line).map fun d => ⟨finished, some d⟩ := by
  rw [step, h]
  dsimp only
  split
  · rename_i hskip
    rcases Bool.or_eq_true_iff.1 hskip with hblank | hcount
    · rw [note_of_isBlankText hblank]
      rfl
    · rw [note_of_isCount hcount]
      rfl
  · rfl

/-- What is finished already does not matter for a line. -/
theorem step_behind (front : List Diagnostic) (s : Scan) (line : Line) :
    (s.behind front).step line = (s.step line).map (behind front) := by
  obtain ⟨finished, current⟩ := s
  cases hheader : header? line with
  | some text =>
      rw [step_header hheader, step_header hheader]
      simp [behind, diagnostics, Except.map]
  | none =>
      cases current with
      | none => rw [step_closed hheader, behind, step_closed hheader]; rfl
      | some d =>
          rw [step_open hheader, behind, step_open hheader]
          cases note d line <;> rfl

theorem run_cons (s : Scan) (line : Line) (lines : List Line) :
    s.run (line :: lines) = s.step line >>= fun s => s.run lines :=
  List.foldlM_cons

/-- A run over two parts goes on where the first part has ended. -/
theorem run_append (s : Scan) (lines more : List Line) :
    s.run (lines ++ more) = s.run lines >>= fun s => s.run more :=
  List.foldlM_append

/-- What is finished already does not matter for any number of lines. -/
theorem run_behind (front : List Diagnostic) (s : Scan) (lines : List Line) :
    (s.behind front).run lines = (s.run lines).map (behind front) := by
  induction lines generalizing s with
  | nil => rfl
  | cons line lines ih =>
      rw [run_cons, run_cons, step_behind]
      cases s.step line with
      | error e => rfl
      | ok s => exact ih s

/-- Lines that start with a header are read as if nothing stood in front of them. -/
theorem diagnostics_run_header {lines : List Line} (h : OpensBlock lines) (s : Scan) :
    (s.run lines).map diagnostics = (start.run lines).map fun t => s.diagnostics ++ t.diagnostics := by
  obtain ⟨line, more, text, rfl, htext⟩ := h.exists_eq_cons
  have hstart : Scan.mk s.diagnostics (some (opened (String.ofList text))) =
      behind s.diagnostics ⟨start.diagnostics, some (opened (String.ofList text))⟩ := by
    simp [behind, start, diagnostics]
  rw [run_cons, run_cons, step_header htext, step_header htext, hstart]
  simp only [bind, Except.bind]
  rw [run_behind]
  cases run ⟨start.diagnostics, some (opened (String.ofList text))⟩ more with
  | error e => rfl
  | ok t => simp [Except.map, behind, diagnostics]

/-! ## Line by line and block by block -/

/-- A record that has its location and its source line takes in nothing more. -/
theorem foldlM_note_of_lineText {d : Diagnostic} (hfile : d.file ≠ none) (htext : d.lineText ≠ none)
    (lines : List Line) : lines.foldlM note d = .ok d := by
  induction lines with
  | nil => rfl
  | cons line lines ih =>
      have hnote : note d line = .ok d := by rw [note, if_neg hfile, if_neg htext]
      rw [List.foldlM_cons, hnote]
      exact ih

/-- Below a place an excerpt of its line is looked for. -/
theorem foldlM_note_of_place (text file : String) (row : Nat) (column : Int) (lines : List Line) :
    lines.foldlM note ⟨text, some file, some row, some column, none⟩ =
      (readExcerpt row lines).map fun lineText => ⟨text, some file, some row, some column, lineText⟩ := by
  induction lines with
  | nil => rfl
  | cons line lines ih =>
      rw [List.foldlM_cons, note, if_neg (by simp), if_pos rfl, readExcerpt]
      cases hexcerpt : excerpt? line with
      | none => exact ih
      | some parts =>
          obtain ⟨ds, shown⟩ := parts
          cases hnumber : naturalOfDigits ds with
          | error e => simp [hnumber, bind, Except.bind, Except.map]
          | ok n =>
              by_cases hrow : n = row
              · subst hrow
                simp only [hnumber, bind, Except.bind, pure, Except.pure, if_pos]
                exact foldlM_note_of_lineText (by simp) (by simp) lines
              · have hne : some (row : Int) ≠ some (n : Int) := by simpa using Ne.symm hrow
                simp only [hnumber, bind, Except.bind, pure, Except.pure, if_neg hne, if_neg hrow]
                exact ih

/-- The lines of a block add up to its diagnostic. -/
theorem foldlM_note_opened (text : String) (lines : List Line) :
    lines.foldlM note (opened text) = readBlock text lines := by
  induction lines with
  | nil => rfl
  | cons line lines ih =>
      rw [List.foldlM_cons, note, if_pos (by rfl), readBlock]
      cases hplace : place? line with
      | none => exact ih
      | some parts =>
          obtain ⟨file, row, column⟩ := parts
          cases hrow : naturalOfDigits row with
          | error e => simp [hrow, bind, Except.bind]
          | ok r =>
              cases hcolumn : naturalOfDigits column with
              | error e => simp [hrow, hcolumn, bind, Except.bind]
              | ok c =>
                  simp only [hrow, hcolumn, bind, Except.bind, pure, Except.pure, opened]
                  rw [foldlM_note_of_place]
                  cases readExcerpt r lines <;> rfl

end Scan

/-- The diagnostics in some lines. -/
def readLines (lines : List Line) : Except TooManyDigits (List Diagnostic) :=
  (blocks lines).2.mapM fun block => readBlock block.1 block.2

/-- Reading a log is reading its lines block by block: the scan and the recursion agree. -/
theorem read_eq (log : String) : read log = readLines (lines log.toList) := rfl

/-- A header closes the lines before it and opens a block of its own. -/
theorem blocks_cons_header {line : Line} {text : List Char} (h : header? line = some text)
    (lines : List Line) :
    blocks (line :: lines) = ([], (String.ofList text, (blocks lines).1) :: (blocks lines).2) := by
  rw [blocks, h]

/-- A line that is no header belongs to the block that is open. -/
theorem blocks_cons_other {line : Line} (h : header? line = none) (lines : List Line) :
    blocks (line :: lines) = (line :: (blocks lines).1, (blocks lines).2) := by
  rw [blocks, h]

/-- Behind a header its block is read first, so that its error is the one that is met. -/
theorem readLines_cons_header {line : Line} {text : List Char} (h : header? line = some text)
    (lines : List Line) :
    readLines (line :: lines) = do
      let d ← readBlock (String.ofList text) (blocks lines).1
      let ds ← readLines lines
      return d :: ds := by
  rw [readLines, blocks_cons_header h, List.mapM_cons]
  rfl

/-- A line in front of the first header is passed over. -/
theorem readLines_cons_other {line : Line} (h : header? line = none) (lines : List Line) :
    readLines (line :: lines) = readLines lines := by
  rw [readLines, blocks_cons_other h]
  rfl

namespace Scan

/-- Below a header its block is read to the end, and then the blocks that follow. -/
theorem diagnostics_run_open (finished : List Diagnostic) (d : Diagnostic) (lines : List Line) :
    (run ⟨finished, some d⟩ lines).map diagnostics = do
      let d ← (blocks lines).1.foldlM note d
      let ds ← readLines lines
      return finished ++ d :: ds := by
  induction lines generalizing finished d with
  | nil => rfl
  | cons line lines ih =>
      rw [run_cons]
      cases hheader : header? line with
      | some text =>
          rw [step_header hheader, blocks_cons_header hheader, readLines_cons_header hheader,
            ← foldlM_note_opened]
          refine (ih _ _).trans ?_
          rw [List.foldlM_nil]
          cases (blocks lines).1.foldlM note (opened (String.ofList text)) with
          | error e => rfl
          | ok block =>
              cases readLines lines with
              | error e => rfl
              | ok ds => simp [diagnostics, bind, Except.bind, pure, Except.pure]
      | none =>
          rw [step_open hheader, blocks_cons_other hheader, readLines_cons_other hheader,
            List.foldlM_cons]
          cases note d line with
          | error e => rfl
          | ok d => exact ih finished d

/-- Line by line a log is read as it is block by block. -/
theorem diagnostics_run (lines : List Line) :
    (start.run lines).map diagnostics = readLines lines := by
  induction lines with
  | nil => rfl
  | cons line lines ih =>
      rw [run_cons, start]
      cases hheader : header? line with
      | some text =>
          rw [step_header hheader, readLines_cons_header hheader, ← foldlM_note_opened]
          exact diagnostics_run_open _ _ lines
      | none =>
          rw [step_closed hheader, readLines_cons_other hheader]
          exact ih

end Scan
end Log
end VideoBundle
