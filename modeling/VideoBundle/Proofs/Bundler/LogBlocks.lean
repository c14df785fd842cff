import VideoBundle.Proofs.Bundler.LogScan

/-!
# Blocks of logs

A header with the lines below it, up to the next header, is a block.  Blocks are read apart from each
other: a log gives what its blocks give one after the other, and every block gives one diagnostic,
whatever the lines are.  The only lines that stop the reading are those with a number of too many digits.

Main results:

- `readLines_append`: what is read of lines in front of a header does not matter behind it.
- `texts_of_readLines`, `readLines_hasBlock`: one diagnostic for each block, read from its lines.
- `exists_readLines_iff`: when a log is read.
- `read_blocks_apart`: the three together, for texts.
-/

namespace VideoBundle
namespace Log

open Text

variable {ls more body : List Line} {ds : List Diagnostic}

/-! ## Headers -/

/-- The texts of the headers among some lines. -/
def headers (ls : List Line) : List String :=
  ls.filterMap fun line => (header? line).map String.ofList

/-- Lines in front of a header are read as if nothing followed, and the others as if nothing stood in
front of them. -/
theorem readLines_append (ls : List Line) (h : OpensBlock more) :
    readLines (ls ++ more) = do
      let ds ← readLines ls
      let es ← readLines more
      return ds ++ es := by
  rw [← Scan.diagnostics_run, ← Scan.diagnostics_run, ← Scan.diagnostics_run, Scan.run_append]
  cases Scan.start.run ls with
  | error e => rfl
  | ok s =>
      refine (Scan.diagnostics_run_header h s).trans ?_
      cases Scan.start.run more <;> rfl

/-- A diagnostic keeps the text of the header that opened its block. -/
theorem text_of_readBlock {text : String} {d : Diagnostic} (h : readBlock text body = .ok d) :
    d.text = text := by
  induction body with
  | nil =>
      cases h
      rfl
  | cons line body ih =>
      rw [readBlock] at h
      split at h
      · exact ih h
      · obtain ⟨row, -, h⟩ := bind_eq_ok_iff.1 h
        obtain ⟨column, -, h⟩ := bind_eq_ok_iff.1 h
        obtain ⟨lineText, -, h⟩ := bind_eq_ok_iff.1 h
        cases h
        rfl

/-- There is one diagnostic for every header, with its text. -/
theorem texts_of_readLines (h : readLines ls = .ok ds) : ds.map Diagnostic.text = headers ls := by
  induction ls generalizing ds with
  | nil =>
      cases h
      rfl
  | cons line ls ih =>
      cases hheader : header? line with
      | none =>
          rw [readLines_cons_other hheader] at h
          rw [ih h, headers, headers, List.filterMap_cons_none (by rw [hheader]; rfl)]
      | some text =>
          rw [readLines_cons_header hheader] at h
          obtain ⟨d, hd, h⟩ := bind_eq_ok_iff.1 h
          obtain ⟨es, hes, h⟩ := bind_eq_ok_iff.1 h
          cases h
          rw [List.map_cons, ih hes, text_of_readBlock hd, headers, headers,
            List.filterMap_cons_some (by rw [hheader]; rfl)]

/-! ## Blocks -/

/-- Whether a header with some lines below it is the block behind the lines `above`. -/
def HasBlock (ls above : List Line) (header : Line) (body : List Line) : Prop :=
  ∃ below, ls = above ++ header :: (body ++ below) ∧ header? header ≠ none ∧
    (∀ line ∈ body, header? line = none) ∧ (below = [] ∨ OpensBlock below)

/-- Lines that are no headers belong to the block above them. -/
theorem blocks_append (hbody : ∀ line ∈ body, header? line = none) (more : List Line) :
    blocks (body ++ more) = (body ++ (blocks more).1, (blocks more).2) := by
  induction body with
  | nil => rfl
  | cons line body ih =>
      rw [List.forall_mem_cons] at hbody
      rw [List.cons_append, blocks_cons_other hbody.1, ih hbody.2]
      rfl

/-- Lines without a header in front of a log change nothing: no block is open there. -/
theorem readLines_append_body (hbody : ∀ line ∈ body, header? line = none) (more : List Line) :
    readLines (body ++ more) = readLines more := by
  rw [readLines, blocks_append hbody, readLines]

/-- A log without a header has no diagnostics, and reading it cannot fail. -/
theorem readLines_of_no_header (hbody : ∀ line ∈ body, header? line = none) :
    readLines body = .ok [] := by
  rw [← List.append_nil body, readLines_append_body hbody]
  rfl

/-- The lines in front of the first header. -/
theorem fst_blocks_append (hbody : ∀ line ∈ body, header? line = none)
    (hmore : more = [] ∨ OpensBlock more) : (blocks (body ++ more)).1 = body := by
  have hnone : (blocks more).1 = [] := by
    rcases hmore with rfl | hopens
    · rfl
    · obtain ⟨line, below, text, rfl, htext⟩ := hopens.exists_eq_cons
      rw [blocks_cons_header htext]
  rw [blocks_append hbody, hnone, List.append_nil]

/-- The lines in front of the first block have no header, and what follows them opens a block. -/
theorem exists_append_fst_blocks (ls : List Line) :
    ∃ below, ls = (blocks ls).1 ++ below ∧ (∀ line ∈ (blocks ls).1, header? line = none) ∧
      (below = [] ∨ OpensBlock below) := by
  induction ls with
  | nil => exact ⟨[], rfl, List.forall_mem_nil _, .inl rfl⟩
  | cons line ls ih =>
      cases hheader : header? line with
      | some text =>
          rw [blocks_cons_header hheader]
          exact ⟨line :: ls, rfl, List.forall_mem_nil _, .inr ⟨line, rfl, by simp [hheader]⟩⟩
      | none =>
          obtain ⟨below, hls, hfront, hbelow⟩ := ih
          rw [blocks_cons_other hheader]
          exact ⟨below, congrArg (line :: ·) hls, List.forall_mem_cons.2 ⟨hheader, hfront⟩, hbelow⟩

/-- A block starts at the first line, or is one of the lines below. -/
theorem hasBlock_cons_iff {line header : Line} {above : List Line} :
    HasBlock (line :: ls) above header body ↔
      (above = [] ∧ header = line ∧ header? line ≠ none ∧ body = (blocks ls).1) ∨
        ∃ others, above = line :: others ∧ HasBlock ls others header body := by
  constructor
  · rintro ⟨below, hls, hheader, hbody, hbelow⟩
    cases above with
    | nil =>
        obtain ⟨rfl, rfl⟩ := List.cons.inj hls
        exact .inl ⟨rfl, rfl, hheader, (fst_blocks_append hbody hbelow).symm⟩
    | cons first others =>
        obtain ⟨rfl, hrest⟩ := List.cons.inj hls
        exact .inr ⟨others, rfl, below, hrest, hheader, hbody, hbelow⟩
  · rintro (⟨rfl, rfl, hheader, rfl⟩ | ⟨others, rfl, below, rfl, hheader, hbody, hbelow⟩)
    · obtain ⟨below, hls, hfront, hbelow⟩ := exists_append_fst_blocks ls
      exact ⟨below, congrArg (header :: ·) hls, hheader, hfront, hbelow⟩
    · exact ⟨below, rfl, hheader, hbody, hbelow⟩

/-- The diagnostic of a block stands in the place of its header and is what the lines of the block alone
would give. -/
theorem readLines_hasBlock {above : List Line} {header : Line} (h : readLines ls = .ok ds)
    (hblock : HasBlock ls above header body) :
    ∃ before d after, ds = before ++ d :: after ∧ before.length = (headers above).length ∧
      readLines (header :: body) = .ok [d] := by
  obtain ⟨below, rfl, hheader, hbody, hbelow⟩ := hblock
  obtain ⟨text, htext⟩ := Option.ne_none_iff_exists'.1 hheader
  rw [readLines_append above ⟨header, rfl, hheader⟩] at h
  obtain ⟨before, hbefore, h⟩ := bind_eq_ok_iff.1 h
  obtain ⟨own, hown, h⟩ := bind_eq_ok_iff.1 h
  cases h
  rw [readLines_cons_header htext, fst_blocks_append hbody hbelow] at hown
  obtain ⟨d, hd, hown⟩ := bind_eq_ok_iff.1 hown
  obtain ⟨after, hafter, hown⟩ := bind_eq_ok_iff.1 hown
  cases hown
  refine ⟨before, d, after, rfl, ?length, ?alone⟩
  case length => rw [← texts_of_readLines hbefore, List.length_map]
  case alone =>
    have halone := fst_blocks_append hbody (.inl rfl)
    rw [List.append_nil] at halone
    rw [readLines_cons_header htext, halone, hd, readLines_of_no_header hbody]
    rfl

/-! ## Numbers -/

/-- Whether digits are few enough to be read as a number. -/
def Fits (digits : List Char) : Prop := digits.length ≤ maxIntegerDigits

/-- Whether the excerpts that are looked at fit: those up to the first of line `row`. -/
def ExcerptsFit (row : Nat) (ls : List Line) : Prop :=
  ∀ before e after, ls.filterMap excerpt? = before ++ e :: after →
    (∀ other ∈ before, digitsValue other.1 ≠ row) → Fits e.1

/-- Whether the numbers that are looked at below a header fit: those of the first line that names a place,
and those of the excerpts below it. -/
def NumbersFit (body : List Line) : Prop :=
  ∀ above line below, body = above ++ line :: below → (∀ other ∈ above, place? other = none) →
    ∀ parts ∈ place? line,
      Fits parts.2.1 ∧ Fits parts.2.2 ∧ ExcerptsFit (digitsValue parts.2.1) below

/-- Digits within the limit are read as their value. -/
theorem naturalOfDigits_of_fits {digits : List Char} (h : Fits digits) :
    naturalOfDigits digits = .ok (digitsValue digits) :=
  if_neg (Nat.not_lt.2 h)

/-- Digits beyond the limit are refused, with their count. -/
theorem naturalOfDigits_of_not_fits {digits : List Char} (h : ¬Fits digits) :
    naturalOfDigits digits = .error ⟨some digits.length⟩ :=
  if_pos (Nat.not_le.1 h)

/-- A line that is no excerpt puts no condition on the block. -/
theorem excerptsFit_cons_none {row : Nat} {line : Line} (h : excerpt? line = none) :
    ExcerptsFit row (line :: ls) ↔ ExcerptsFit row ls := by
  rw [ExcerptsFit, List.filterMap_cons_none h, ExcerptsFit]

/-- The excerpts are read up to the one of the diagnostic's own row, and no further. -/
theorem excerptsFit_cons_some {row : Nat} {line : Line} {e : List Char × List Char}
    (h : excerpt? line = some e) :
    ExcerptsFit row (line :: ls) ↔ Fits e.1 ∧ (digitsValue e.1 ≠ row → ExcerptsFit row ls) := by
  rw [ExcerptsFit, List.filterMap_cons_some h]
  constructor
  · intro hfits
    refine ⟨hfits [] e _ rfl (List.forall_mem_nil _), fun hrow before other after heq hbefore => ?_⟩
    exact hfits (e :: before) other after (by rw [heq]; rfl) (List.forall_mem_cons.2 ⟨hrow, hbefore⟩)
  · rintro ⟨hfirst, hrest⟩ before other after heq hbefore
    cases before with
    | nil =>
        obtain ⟨rfl, -⟩ := List.cons.inj heq
        exact hfirst
    | cons first before =>
        obtain ⟨rfl, htail⟩ := List.cons.inj heq
        rw [List.forall_mem_cons] at hbefore
        exact hrest hbefore.1 before other after htail hbefore.2

/-- The source line can be read exactly if the numbers of the excerpts before it fit. -/
theorem exists_readExcerpt_iff {row : Nat} :
    (∃ lineText, readExcerpt row ls = .ok lineText) ↔ ExcerptsFit row ls := by
  induction ls with
  | nil => simp [readExcerpt, ExcerptsFit]
  | cons line ls ih =>
      rw [readExcerpt]
      cases hexcerpt : excerpt? line with
      | none => rw [excerptsFit_cons_none hexcerpt, ← ih]
      | some e =>
          rw [excerptsFit_cons_some hexcerpt, ← ih]
          by_cases hfits : Fits e.1
          · by_cases hrow : digitsValue e.1 = row
            · simp [naturalOfDigits_of_fits hfits, hfits, hrow]
            · simp [naturalOfDigits_of_fits hfits, hfits, hrow]
          · simp [naturalOfDigits_of_not_fits hfits, hfits]

/-- A line that is no location puts no condition on the block. -/
theorem numbersFit_cons_none {line : Line} (h : place? line = none) :
    NumbersFit (line :: body) ↔ NumbersFit body := by
  constructor
  · intro hfits above other below heq habove
    exact hfits (line :: above) other below (by rw [heq]; rfl) (List.forall_mem_cons.2 ⟨h, habove⟩)
  · intro hfits above other below heq habove
    cases above with
    | nil =>
        obtain ⟨rfl, -⟩ := List.cons.inj heq
        simp [h]
    | cons first above =>
        obtain ⟨rfl, htail⟩ := List.cons.inj heq
        rw [List.forall_mem_cons] at habove
        exact hfits above other below htail habove.2

/-- The first location decides: its two numbers, then the excerpts behind it. -/
theorem numbersFit_cons_some {line : Line} {file row column : List Char}
    (h : place? line = some (file, row, column)) :
    NumbersFit (line :: body) ↔ Fits row ∧ Fits column ∧ ExcerptsFit (digitsValue row) body := by
  constructor
  · exact fun hfits => hfits [] line body rfl (List.forall_mem_nil _) _ h
  · intro hfits above other below heq habove
    cases above with
    | nil =>
        obtain ⟨rfl, rfl⟩ := List.cons.inj heq
        rw [h]
        rintro _ ⟨⟩
        exact hfits
    | cons first above =>
        obtain ⟨rfl, -⟩ := List.cons.inj heq
        rw [(List.forall_mem_cons.1 habove).1] at h
        cases h

/-- A block can be read exactly if the numbers that are met in it fit. -/
theorem exists_readBlock_iff (text : String) :
    (∃ d, readBlock text body = .ok d) ↔ NumbersFit body := by
  induction body with
  | nil => simp [readBlock, NumbersFit]
  | cons line body ih =>
      rw [readBlock]
      cases hplace : place? line with
      | none => rw [numbersFit_cons_none hplace, ← ih]
      | some parts =>
          obtain ⟨file, row, column⟩ := parts
          rw [numbersFit_cons_some hplace, ← exists_readExcerpt_iff]
          by_cases hrow : Fits row
          · by_cases hcolumn : Fits column
            · simp [exists_bind_iff, naturalOfDigits_of_fits hrow, naturalOfDigits_of_fits hcolumn, hrow,
                hcolumn, pure, Except.pure]
            · simp [exists_bind_iff, naturalOfDigits_of_not_fits hcolumn, hcolumn]
          · simp [exists_bind_iff, naturalOfDigits_of_not_fits hrow, hrow]

/-- A log is read when the numbers of all its blocks fit. -/
theorem exists_readLines_iff :
    (∃ ds, readLines ls = .ok ds) ↔
      ∀ above header body, HasBlock ls above header body → NumbersFit body := by
  induction ls with
  | nil =>
      refine iff_of_true ⟨[], rfl⟩ ?_
      rintro above header body ⟨below, hls, -⟩
      simp at hls
  | cons line ls ih =>
      cases hheader : header? line with
      | none =>
          rw [readLines_cons_other hheader, ih]
          constructor
          · intro h above header body hblock
            rcases hasBlock_cons_iff.1 hblock with ⟨-, -, hne, -⟩ | ⟨others, -, hbelow⟩
            · exact absurd hheader hne
            · exact h others header body hbelow
          · intro h above header body hblock
            exact h (line :: above) header body (hasBlock_cons_iff.2 (.inr ⟨above, rfl, hblock⟩))
      | some text =>
          have hne : header? line ≠ none := by simp [hheader]
          have hsplit : (∃ ds, readLines (line :: ls) = .ok ds) ↔
              NumbersFit (blocks ls).1 ∧ ∃ ds, readLines ls = .ok ds := by
            rw [readLines_cons_header hheader, ← exists_readBlock_iff (String.ofList text)]
            simp [exists_bind_iff, pure, Except.pure]
          rw [hsplit, ih]
          constructor
          · rintro ⟨hown, hothers⟩ above header body hblock
            rcases hasBlock_cons_iff.1 hblock with ⟨-, -, -, rfl⟩ | ⟨others, -, hbelow⟩
            · exact hown
            · exact hothers others header body hbelow
          · intro h
            refine ⟨h [] line _ (hasBlock_cons_iff.2 (.inl ⟨rfl, rfl, hne, rfl⟩)), ?_⟩
            intro above header body hblock
            exact h (line :: above) header body (hasBlock_cons_iff.2 (.inr ⟨above, rfl, hblock⟩))

/-! ## Texts -/

/-- Whether a text has no line that is not ended: it is empty, or a line feed stands at its end. -/
def EndsLine (cs : List Char) : Prop := cs = [] ∨ ∃ front, cs = front ++ ['\n']

/-- A text that ends its last line can be cut off: the lines of both parts follow each other. -/
theorem lines_append {cs : List Char} (h : EndsLine cs) (rest : List Char) :
    lines (cs ++ rest) = lines cs ++ lines rest := by
  rcases h with rfl | ⟨front, rfl⟩
  · rfl
  · rw [lines, List.append_assoc, List.singleton_append, splitLines_append_newline, List.map_append]
    rfl

/-- The first line of a text is taken without the blanks at its end. -/
theorem lines_line {line : List Char} (h : ∀ c ∈ line, isLineBoundary c = false) (rest : List Char) :
    lines (line ++ '\n' :: rest) = stripRight line :: lines rest := by
  rw [lines, splitLines_line h]
  rfl

/-- A text without a line boundary is one line. -/
theorem lines_of_forall {line : List Char} (h : ∀ c ∈ line, isLineBoundary c = false)
    (hne : line ≠ []) : lines line = [stripRight line] := by
  rw [lines, splitLines_of_forall h hne]
  rfl

/-- A log is read block by block.  Wherever it is cut in front of a line that is a header, the two parts are
read one after the other as each is alone.  If it is read, there is one diagnostic for every header, with
its text, and the lines of its block alone give it.  It is read exactly when no number that is looked at
has too many digits. -/
theorem read_blocks_apart (log : String) :
    (∀ a b : String, log = a ++ b → EndsLine a.toList → OpensBlock (lines b.toList) →
        read log = do
          let ds ← read a
          let es ← read b
          return ds ++ es) ∧
      (∀ ds, read log = .ok ds →
        ds.map Diagnostic.text = headers (lines log.toList) ∧
          ∀ above header body, HasBlock (lines log.toList) above header body →
            ∃ before d after, ds = before ++ d :: after ∧ before.length = (headers above).length ∧
              readLines (header :: body) = .ok [d]) ∧
      ((∃ ds, read log = .ok ds) ↔
        ∀ above header body, HasBlock (lines log.toList) above header body → NumbersFit body) := by
  refine ⟨?apart, fun ds h => ⟨?texts, ?own⟩, exists_readLines_iff⟩
  case apart =>
    rintro a b rfl ha hb
    rw [read_eq, String.toList_append, lines_append ha, readLines_append _ hb]
    rfl
  case texts => exact texts_of_readLines h
  case own => exact fun above header body hblock => readLines_hasBlock h hblock

/-- A log with a line in front of its one block. -/
def firstLog : String :=
  "building\n✘ [ERROR] one\n\n    /a.ts:3:4:\n      2 │ x\n      3 │   y\n"

/-- A log with a place that is cut short and one whose file ends like a place. -/
def secondLog : String := "  [ERROR] two  \n b.ts:1:\n c:12:1:0:\n1 error"

/-- The two logs one after the other, and the block of the second among their lines. -/
theorem read_blocks_apart_twoLogs :
    EndsLine firstLog.toList ∧ OpensBlock (lines secondLog.toList) ∧
      read (firstLog ++ secondLog) =
        .ok [⟨"one", some "/a.ts", some 3, some 4, some "  y"⟩,
          ⟨"two", some "c:12", some 1, some 0, none⟩] ∧
      HasBlock (lines (firstLog ++ secondLog).toList) (lines firstLog.toList) "  [ERROR] two".toList
        [" b.ts:1:".toList, " c:12:1:0:".toList, "1 error".toList] ∧
      ∃ d, d.text = "two" ∧
        readLines ["  [ERROR] two".toList, " b.ts:1:".toList, " c:12:1:0:".toList, "1 error".toList] =
          .ok [d] := by
  obtain ⟨happart, hown, -⟩ := read_blocks_apart (firstLog ++ secondLog)
  have hends : EndsLine firstLog.toList := .inr ⟨firstLog.toList.dropLast, by decide +kernel⟩
  have hopens : OpensBlock (lines secondLog.toList) :=
    ⟨"  [ERROR] two".toList, by decide +kernel, by decide +kernel⟩
  have hfirst : read firstLog = .ok [⟨"one", some "/a.ts", some 3, some 4, some "  y"⟩] := by
    decide +kernel
  have hsecond : read secondLog = .ok [⟨"two", some "c:12", some 1, some 0, none⟩] := by decide +kernel
  have hread := happart firstLog secondLog rfl hends hopens
  rw [hfirst, hsecond] at hread
  have hblock : HasBlock (lines (firstLog ++ secondLog).toList) (lines firstLog.toList)
      "  [ERROR] two".toList [" b.ts:1:".toList, " c:12:1:0:".toList, "1 error".toList] := by
    refine ⟨[], ?_, by decide +kernel, by decide +kernel, .inl rfl⟩
    rw [String.toList_append, lines_append hends]
    exact congrArg (lines firstLog.toList ++ ·) (by decide +kernel)
  obtain ⟨before, d, after, hds, hlength, hd⟩ := (hown _ hread).2 _ _ _ hblock
  have hone : before.length = 1 := hlength.trans (by decide +kernel)
  obtain ⟨other, rfl⟩ := List.length_eq_one_iff.1 hone
  simp only [List.cons_append, List.nil_append, List.cons.injEq] at hds
  exact ⟨hends, hopens, hread, hblock, d, by rw [← hds.2.1], hd⟩

/-- A place at the start of line `n`. -/
def startOfLine (n : Nat) : Line :=
  ' ' :: 'b' :: ':' :: (decimalDigits n ++ ':' :: (decimalDigits 0 ++ [':']))

/-- A log of one block with this place. -/
def logOfLine (n : Nat) : String := String.ofList ("[ERROR] a".toList ++ '\n' :: startOfLine n)

theorem lines_logOfLine (n : Nat) :
    lines (logOfLine n).toList = ["[ERROR] a".toList, startOfLine n] := by
  have hheader : ∀ c ∈ "[ERROR] a".toList, isLineBoundary c = false := by decide +kernel
  have hfront : ∀ c ∈ [' ', 'b', ':'], isLineBoundary c = false := by decide
  have hplace : ∀ c ∈ startOfLine n, isLineBoundary c = false := by
    simp only [List.forall_mem_cons] at hfront
    simp only [startOfLine, List.forall_mem_cons, List.forall_mem_append]
    exact ⟨hfront.1, hfront.2.1, hfront.2.2.1, isLineBoundary_of_mem, hfront.2.2.1,
      isLineBoundary_of_mem, hfront.2.2.1, List.forall_mem_nil _⟩
  have hstripped : stripRight "[ERROR] a".toList = "[ERROR] a".toList := by decide +kernel
  have hends : stripRight (startOfLine n) = startOfLine n := by
    have hlast := stripRight_concat (c := ':') (by decide)
      (' ' :: 'b' :: ':' :: (decimalDigits n ++ ':' :: decimalDigits 0))
    simpa [startOfLine] using hlast
  have htext : (logOfLine n).toList = "[ERROR] a".toList ++ '\n' :: startOfLine n :=
    String.toList_ofList
  rw [htext, lines_line hheader, lines_of_forall hplace (List.cons_ne_nil _ _), hstripped, hends]

/-- The log is read when the number is. -/
theorem read_logOfLine (n : Nat) :
    read (logOfLine n) = (naturalOfDigits (decimalDigits n)).map fun row =>
      [⟨"a", some "b", some row, some 0, none⟩] := by
  have hheader : header? "[ERROR] a".toList = some ['a'] := by decide +kernel
  have hother : header? (startOfLine n) = none :=
    header?_padded [' '] (List.forall_mem_singleton.2 (by decide)) (by decide) _
  have hplace : place? (startOfLine n) = some (['b'], decimalDigits n, decimalDigits 0) :=
    place?_written [] [] (by decide) (List.forall_mem_nil _) (by decide) n 0
  have hzero : naturalOfDigits (decimalDigits 0) = .ok 0 := by decide +kernel
  rw [read_eq, lines_logOfLine, readLines_cons_header hheader, blocks_cons_other hother, readBlock,
    hplace]
  simp only [hzero]
  cases naturalOfDigits (decimalDigits n) <;> rfl

/-- Where the line has one digit too many there is a header, and no diagnostic is read. -/
theorem not_forall_read_length :
    ¬∀ log : String, ∃ ds, read log = .ok ds ∧ ds.length = (headers (lines log.toList)).length := by
  intro h
  obtain ⟨ds, hread, -⟩ := h (logOfLine (10 ^ maxIntegerDigits))
  rw [read_logOfLine, naturalOfDigits_decimalDigits, if_neg (Nat.lt_irrefl _)] at hread
  cases hread

end Log
end VideoBundle
