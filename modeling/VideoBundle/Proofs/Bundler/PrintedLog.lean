import VideoBundle.Proofs.Bundler.LogBlocks

/-!
# Logs as they are printed

The bundler prints every error in six lines, the place and the excerpt among them, and a count of the
errors at the end.  Reading such a log gives the errors back, whatever else their texts, files and lines
of source look like: texts that look like headers or counts, files with colons and digits, and lines of
source that are empty or indented or hold bars.  A line or a column with too many digits is the one thing
that cannot be read.

Main results:

- `PlacedError.readBlock_lines`: what is read of the lines of one error.
- `readLines_flatMap_iff`: what is read of the lines of some errors.
- `read_printed_iff`: the same for the text of a log.
-/

namespace VideoBundle
namespace Log

open Text

/-- An error with a place and the line of source there. -/
structure PlacedError where
  text : String
  file : String
  line : Nat
  column : Nat
  lineText : String
  bare : Bare isBlank text.toList
  rooted : file.toList.head? = some '/'
  trimmed : ∀ c ∈ lineText.toList.getLast?, isBlank c = false
  unbroken : ∀ c ∈ text.toList ++ file.toList ++ lineText.toList, isLineBoundary c = false

/-- Blanks in front of a line. -/
def indent (n : Nat) : List Char := List.replicate n ' '

namespace PlacedError

/-- The error as a diagnostic. -/
def diagnostic (e : PlacedError) : Diagnostic :=
  ⟨e.text, some e.file, some e.line, some e.column, some e.lineText⟩

/-- Whether line and column have few enough digits to be read. -/
def Fits (e : PlacedError) : Prop := e.line < 10 ^ maxIntegerDigits ∧ e.column < 10 ^ maxIntegerDigits

/-- The line with the text. -/
def header (e : PlacedError) : List Char := '✘' :: (" [ERROR] ".toList ++ e.text.toList)

/-- The line with file, line and column. -/
def place (e : PlacedError) : List Char :=
  indent 4 ++ e.file.toList ++
    ':' :: (decimalDigits e.line ++ ':' :: (decimalDigits e.column ++ [':']))

/-- The line with the line of source. -/
def excerpt (e : PlacedError) : List Char :=
  indent 6 ++ (decimalDigits e.line ++ " │ ".toList ++ e.lineText.toList)

/-- The line that points to the column. -/
def caret : List Char := indent 8 ++ "╵ ^".toList

/-- The lines of the error. -/
def lines (e : PlacedError) : List (List Char) :=
  [e.header, [], e.place, e.excerpt, caret, []]

end PlacedError

/-- The line that counts errors. -/
def countLine (n : Nat) : List Char :=
  decimalDigits n ++ (if n = 1 then " error" else " errors").toList

/-- The text of a log; its last line may be ended or not. -/
def printed (es : List PlacedError) (ended : Bool) : String :=
  String.ofList ((es.flatMap PlacedError.lines).flatMap (· ++ ['\n']) ++
    (countLine es.length ++ if ended then ['\n'] else []))

/-! ## Lines of an error -/

namespace PlacedError

variable (e : PlacedError)

/-- The path of a printed error begins with a slash. -/
theorem exists_file_eq : ∃ cs, e.file.toList = '/' :: cs := by
  obtain ⟨cs, hcs⟩ := List.head?_eq_some_iff.1 e.rooted
  exact ⟨cs, hcs⟩

/-- The header line is read as the header of its text. -/
theorem header?_header : header? (stripRight e.header) = some e.text.toList := by
  have hstrip : stripRight e.header = e.header := by
    obtain ⟨rest, c, htext, hc⟩ := e.bare.last
    have hend := stripRight_concat hc ('✘' :: (" [ERROR] ".toList ++ rest))
    rw [header, htext]
    simpa using hend
  obtain ⟨c, cs, htext, hc⟩ := e.bare.first
  rw [hstrip, header, htext, header?_written hc]

/-- The location line ends with a colon, so stripping leaves it. -/
theorem stripRight_place : stripRight e.place = e.place := by
  have hend := stripRight_concat (c := ':') (by decide) (indent 4 ++ e.file.toList ++
    ':' :: (decimalDigits e.line ++ ':' :: decimalDigits e.column))
  simpa [place] using hend

theorem header?_place : header? e.place = none := by
  obtain ⟨cs, hfile⟩ := e.exists_file_eq
  rw [place, hfile, List.append_assoc]
  exact header?_padded (indent 4) (by decide) (by decide) _

/-- The location line is read as the path and the two numbers that were printed. -/
theorem place?_place :
    place? e.place = some (e.file.toList, decimalDigits e.line, decimalDigits e.column) := by
  obtain ⟨cs, hfile⟩ := e.exists_file_eq
  rw [place, hfile]
  exact place?_written (indent 3) cs (by decide) (by decide) (by decide) _ _

/-- The excerpt without blanks at its end: behind the bar of an empty line there is nothing. -/
theorem stripRight_excerpt :
    stripRight e.excerpt = indent 6 ++ (decimalDigits e.line ++
      ' ' :: '│' :: if e.lineText.toList = [] then [] else ' ' :: e.lineText.toList) := by
  rcases List.eq_nil_or_concat e.lineText.toList with hempty | ⟨cs, c, hlast⟩
  · have hbar := stripRight_concat (c := '│') (by decide) (indent 6 ++ (decimalDigits e.line ++ [' ']))
    have hblank := stripRight_concat_blank (c := ' ') (by decide)
      (indent 6 ++ (decimalDigits e.line ++ [' ']) ++ ['│'])
    rw [excerpt, hempty, if_pos rfl, List.append_nil]
    simpa using hblank.trans hbar
  · have hc : isBlank c = false := e.trimmed c (by simp [hlast])
    have hend := stripRight_concat hc (indent 6 ++ (decimalDigits e.line ++ " │ ".toList ++ cs))
    rw [excerpt, hlast, if_neg (by simp)]
    simpa using hend

theorem header?_excerpt : header? (stripRight e.excerpt) = none := by
  obtain ⟨c, cs, hdigits, hc⟩ := exists_decimalDigits_eq_cons e.line
  rw [stripRight_excerpt, hdigits]
  exact header?_padded (indent 6) (by decide) hc _

/-- The excerpt is read as the number and the source line that were printed. -/
theorem excerpt?_excerpt :
    excerpt? (stripRight e.excerpt) = some (decimalDigits e.line, e.lineText.toList) := by
  rw [stripRight_excerpt, excerpt?_written (by decide)]
  by_cases hempty : e.lineText.toList = []
  · rw [if_pos hempty, hempty]
    rfl
  · rw [if_neg hempty]
    rfl

theorem header?_caret : header? (stripRight caret) = none := by decide +kernel

theorem header?_nil : header? [] = none := by decide

/-! ## Reading errors -/

/-- The lines below the header, as they are read. -/
def body (e : PlacedError) : List Line :=
  [[], e.place, stripRight e.excerpt, stripRight caret, []]

/-- Stripping leaves a printed error with its header in front of its body. -/
theorem stripRight_lines : e.lines.map stripRight = stripRight e.header :: e.body := by
  rw [lines, body, List.map_cons, List.map_cons, List.map_cons, e.stripRight_place]
  rfl

/-- No line of the body opens a block. -/
theorem header?_body : ∀ line ∈ e.body, header? line = none := by
  simp only [body, List.forall_mem_cons]
  exact ⟨header?_nil, e.header?_place, e.header?_excerpt, header?_caret, header?_nil,
    List.forall_mem_nil _⟩

/-- The source line is found at the excerpt, if its number is within the limit. -/
theorem readExcerpt_excerpt (h : e.line < 10 ^ maxIntegerDigits) (more : List Line) :
    readExcerpt e.line (stripRight e.excerpt :: more) = .ok (some e.lineText) := by
  rw [readExcerpt, e.excerpt?_excerpt]
  simp only [naturalOfDigits_decimalDigits, if_pos h, if_true, String.ofList_toList]

/-- Whatever follows the lines of an error, they give its diagnostic if its numbers can be read. -/
theorem readBlock_body (more : List Line) (d : Diagnostic) :
    readBlock e.text (e.body ++ more) = .ok d ↔ d = e.diagnostic ∧ e.Fits := by
  have hnil : place? [] = none := place?_eq_none (by simp)
  have hblock : readBlock e.text (e.body ++ more) = do
      let row ← naturalOfDigits (decimalDigits e.line)
      let column ← naturalOfDigits (decimalDigits e.column)
      let lineText ← readExcerpt row (stripRight e.excerpt :: (stripRight caret :: [] :: more))
      return ⟨e.text, some e.file, some row, some column, lineText⟩ := by
    rw [body, List.cons_append, List.cons_append, readBlock, hnil, readBlock, e.place?_place]
    simp only [String.ofList_toList]
    rfl
  rw [hblock, naturalOfDigits_decimalDigits, naturalOfDigits_decimalDigits, Fits]
  by_cases hline : e.line < 10 ^ maxIntegerDigits
  · by_cases hcolumn : e.column < 10 ^ maxIntegerDigits
    · rw [if_pos hline, if_pos hcolumn]
      simp only [bind_eq_ok_iff, Except.ok.injEq, exists_eq_left', e.readExcerpt_excerpt hline, pure,
        Except.pure, hline, hcolumn, and_self, and_true]
      exact eq_comm
    · rw [if_neg hcolumn]
      simp [bind_eq_ok_iff, hcolumn]
  · rw [if_neg hline]
    simp [bind_eq_ok_iff, hline]

/-- The lines of an error give its diagnostic, and what follows is read as it is alone. -/
theorem readLines_lines (more : List Line) (ds : List Diagnostic) :
    readLines (e.lines.map stripRight ++ more) = .ok ds ↔
      ∃ rest, ds = e.diagnostic :: rest ∧ e.Fits ∧ readLines more = .ok rest := by
  rw [e.stripRight_lines, List.cons_append, readLines_cons_header e.header?_header,
    readLines_append_body e.header?_body, blocks_append e.header?_body, String.ofList_toList]
  simp only [bind_eq_ok_iff, e.readBlock_body, pure, Except.pure, Except.ok.injEq]
  constructor
  · rintro ⟨_, ⟨rfl, hfits⟩, rest, hrest, rfl⟩
    exact ⟨rest, rfl, hfits, hrest⟩
  · rintro ⟨rest, rfl, hfits, hrest⟩
    exact ⟨_, ⟨rfl, hfits⟩, rest, hrest, rfl⟩

end PlacedError

theorem header?_countLine (n : Nat) : header? (countLine n) = none := by
  obtain ⟨c, cs, hdigits, hc⟩ := exists_decimalDigits_eq_cons n
  rw [countLine, hdigits]
  exact header?_padded [] (List.forall_mem_nil _) hc _

/-- The lines of some errors give their diagnostics, if all their numbers can be read. -/
theorem readLines_flatMap_iff (es : List PlacedError) (ds : List Diagnostic) (n : Nat) :
    readLines ((es.flatMap PlacedError.lines).map stripRight ++ [countLine n]) = .ok ds ↔
      ds = es.map PlacedError.diagnostic ∧ ∀ e ∈ es, e.Fits := by
  induction es generalizing ds with
  | nil =>
      have hcount : readLines [countLine n] = .ok [] :=
        readLines_of_no_header (List.forall_mem_singleton.2 (header?_countLine n))
      simp [hcount, eq_comm]
  | cons e es ih =>
      rw [List.flatMap_cons, List.map_append, List.append_assoc, e.readLines_lines, List.forall_mem_cons,
        List.map_cons]
      constructor
      · rintro ⟨rest, rfl, hfits, hrest⟩
        obtain ⟨rfl, hothers⟩ := (ih rest).1 hrest
        exact ⟨rfl, hfits, hothers⟩
      · rintro ⟨rfl, hfits, hothers⟩
        exact ⟨_, rfl, hfits, (ih _).2 ⟨rfl, hothers⟩⟩

/-! ## Texts of logs -/

/-- Lines without boundaries, each ended by a line feed, are the lines of their text. -/
theorem lines_flatMap {ls : List (List Char)} (h : ∀ l ∈ ls, ∀ c ∈ l, isLineBoundary c = false)
    (rest : List Char) :
    Log.lines (ls.flatMap (· ++ ['\n']) ++ rest) = ls.map stripRight ++ Log.lines rest := by
  induction ls with
  | nil => rfl
  | cons l ls ih =>
      rw [List.forall_mem_cons] at h
      rw [List.flatMap_cons, List.append_assoc, List.append_assoc, List.singleton_append,
        lines_line h.1, ih h.2, List.map_cons, List.cons_append]

theorem isLineBoundary_of_mem_indent (n : Nat) : ∀ c ∈ indent n, isLineBoundary c = false := by
  intro c hc
  rw [List.eq_of_mem_replicate hc]
  decide

/-- No line of a printed error has a line boundary inside. -/
theorem PlacedError.isLineBoundary_of_mem_lines (e : PlacedError) :
    ∀ l ∈ e.lines, ∀ c ∈ l, isLineBoundary c = false := by
  have hcolon : isLineBoundary ':' = false := by decide
  obtain ⟨⟨htext, hfile⟩, hlineText⟩ := by simpa only [List.forall_mem_append] using e.unbroken
  have hheader : ∀ c ∈ e.header, isLineBoundary c = false := by
    have hmark : ∀ c ∈ '✘' :: " [ERROR] ".toList, isLineBoundary c = false := by decide
    rw [PlacedError.header, ← List.cons_append, List.forall_mem_append]
    exact ⟨hmark, htext⟩
  have hplace : ∀ c ∈ e.place, isLineBoundary c = false := by
    simp only [PlacedError.place, List.forall_mem_append, List.forall_mem_cons]
    exact ⟨⟨isLineBoundary_of_mem_indent 4, hfile⟩, hcolon, isLineBoundary_of_mem, hcolon,
      isLineBoundary_of_mem, hcolon, List.forall_mem_nil _⟩
  have hexcerpt : ∀ c ∈ e.excerpt, isLineBoundary c = false := by
    have hbar : ∀ c ∈ " │ ".toList, isLineBoundary c = false := by decide
    simp only [PlacedError.excerpt, List.forall_mem_append]
    exact ⟨isLineBoundary_of_mem_indent 6, ⟨isLineBoundary_of_mem, hbar⟩, hlineText⟩
  have hcaret : ∀ c ∈ PlacedError.caret, isLineBoundary c = false := by decide
  simp only [PlacedError.lines, List.forall_mem_cons]
  exact ⟨hheader, List.forall_mem_nil _, hplace, hexcerpt, hcaret, List.forall_mem_nil _,
    List.forall_mem_nil _⟩

/-- The line with the count is one line, ended or not. -/
theorem lines_countLine (n : Nat) (ended : Bool) :
    Log.lines (countLine n ++ if ended then ['\n'] else []) = [countLine n] := by
  obtain ⟨cs, c, hcount, hc, hwords⟩ : ∃ cs c, countLine n = decimalDigits n ++ cs ++ [c] ∧
      isBlank c = false ∧ ∀ c' ∈ cs ++ [c], isLineBoundary c' = false := by
    by_cases hone : n = 1
    · exact ⟨" erro".toList, 'r', by simp [countLine, hone], by decide, by decide⟩
    · exact ⟨" error".toList, 's', by simp [countLine, hone], by decide, by decide⟩
  have hboundary : ∀ c ∈ countLine n, isLineBoundary c = false := by
    rw [hcount, List.append_assoc, List.forall_mem_append]
    exact ⟨isLineBoundary_of_mem, hwords⟩
  have hstrip : stripRight (countLine n) = countLine n := by rw [hcount, stripRight_concat hc]
  have hne : countLine n ≠ [] := by simp [hcount]
  cases ended with
  | true =>
      have hline := lines_line hboundary []
      rwa [hstrip] at hline
  | false =>
      have hline := lines_of_forall hboundary hne
      rw [hstrip] at hline
      simpa using hline

/-- Reading a printed log is reading the lines of its errors and the count behind them. -/
theorem read_printed_eq (es : List PlacedError) (ended : Bool) :
    read (printed es ended) =
      readLines ((es.flatMap PlacedError.lines).map stripRight ++ [countLine es.length]) := by
  have hlines : ∀ l ∈ es.flatMap PlacedError.lines, ∀ c ∈ l, isLineBoundary c = false := by
    intro l hl
    obtain ⟨e, -, hmem⟩ := List.mem_flatMap.1 hl
    exact e.isLineBoundary_of_mem_lines l hmem
  have htext : (printed es ended).toList = (es.flatMap PlacedError.lines).flatMap (· ++ ['\n']) ++
      (countLine es.length ++ if ended then ['\n'] else []) := String.toList_ofList
  rw [read_eq, htext, lines_flatMap hlines, lines_countLine]

/-- A log that is printed gives its errors, all of them in their order, if their lines and columns have
few enough digits; otherwise it gives none. -/
theorem read_printed_iff (es : List PlacedError) (ended : Bool) (ds : List Diagnostic) :
    read (printed es ended) = .ok ds ↔ ds = es.map PlacedError.diagnostic ∧ ∀ e ∈ es, e.Fits := by
  rw [read_printed_eq, readLines_flatMap_iff]

/-- An error whose text looks like a header and a count, with a file that looks like a place and an empty
line of source, and one whose line of source looks like an excerpt. -/
def crookedErrors : List PlacedError :=
  [{ text := "[ERROR] 2 errors"
     file := "/a:1:2: b.ts:7"
     line := 3
     column := 0
     lineText := ""
     bare := ⟨⟨'[', _, rfl, by decide⟩, ⟨"[ERROR] 2 error".toList, 's', by decide +kernel, by decide⟩⟩
     rooted := by decide +kernel
     trimmed := by simp
     unbroken := by decide +kernel },
   { text := "/b.ts:1:2:"
     file := "/src/[ERROR] x "
     line := 40
     column := 11
     lineText := "  40 │ x | y"
     bare := ⟨⟨'/', _, rfl, by decide⟩, ⟨"/b.ts:1:2".toList, ':', by decide +kernel, by decide⟩⟩
     rooted := by decide +kernel
     trimmed := by
       have hlast : "  40 │ x | y".toList.getLast? = some 'y' := by decide +kernel
       simp only [hlast, Option.mem_some_iff, forall_eq']
       decide
     unbroken := by decide +kernel }]

/-- The log of the two errors, and what is read of it. -/
theorem read_printed_crookedErrors :
    printed crookedErrors true =
        "✘ [ERROR] [ERROR] 2 errors\n\n    /a:1:2: b.ts:7:3:0:\n      3 │ \n        ╵ ^\n\n" ++
        "✘ [ERROR] /b.ts:1:2:\n\n    /src/[ERROR] x :40:11:\n      40 │   40 │ x | y\n        ╵ ^\n\n" ++
        "2 errors\n" ∧
      read (printed crookedErrors true) =
        .ok [⟨"[ERROR] 2 errors", some "/a:1:2: b.ts:7", some 3, some 0, some ""⟩,
          ⟨"/b.ts:1:2:", some "/src/[ERROR] x ", some 40, some 11, some "  40 │ x | y"⟩] := by
  refine ⟨by decide +kernel, (read_printed_iff _ _ _).2 ⟨rfl, ?fits⟩⟩
  simp only [crookedErrors, List.forall_mem_cons, PlacedError.Fits]
  exact ⟨by decide +kernel, by decide +kernel, List.forall_mem_nil _⟩

/-- An error in a line. -/
def errorOfLine (n : Nat) : PlacedError where
  text := "a"
  file := "/b"
  line := n
  column := 0
  lineText := ""
  bare := .of_forall (by decide) (by decide)
  rooted := by decide
  trimmed := by simp
  unbroken := by decide

/-- The log of an error whose line has one digit too many is not read. -/
theorem not_forall_read_printed :
    ¬∀ (es : List PlacedError) (ended : Bool),
      read (printed es ended) = .ok (es.map PlacedError.diagnostic) := by
  intro h
  have hread := h [errorOfLine (10 ^ maxIntegerDigits)] true
  rw [read_printed_eq, readLines_flatMap_iff] at hread
  have hfits := hread.2 _ (List.mem_singleton_self _)
  exact Nat.lt_irrefl _ hfits.1

end Log
end VideoBundle
