import VideoBundle.Bundler.Diagnostic
import VideoBundle.Number.Digits
import VideoBundle.Text.Lines
import VideoBundle.Text.Search

/-!
# Error logs of the bundler

A log is read as blocks: a header line with the text of an error opens a block, which lasts up to the
next header.  Inside a block the first line that names a place gives file, line and column; after it
the first excerpt of that line gives its text.  All other lines are passed over.
-/

namespace VideoBundle
namespace Log

open Text

/-- A line of a log without blanks at its end. -/
abbrev Line := List Char

/-- The marks that can stand in front of a header. -/
def isMark (c : Char) : Bool := c = '✘' || c = 'X' || c = '×'

/-- A text without one leading character that satisfies `p`. -/
def skipOne (p : Char → Bool) : List Char → List Char
  | [] => []
  | c :: cs => if p c then cs else c :: cs

/-- The text of a header line: perhaps a mark, `[ERROR]`, and the text behind blanks. -/
def header? (line : Line) : Option (List Char) :=
  match afterLead? "[ERROR]".toList (stripLeft (skipOne isMark (stripLeft line))) with
  | none => none
  | some rest =>
      let text := stripLeft rest
      if text.length < rest.length ∧ text ≠ [] then some text else none

/-- A row of digits at the start of a text, with the rest behind a colon. -/
def digitsToColon? (cs : List Char) : Option (List Char × List Char) :=
  match cs.dropWhile isDecimalDigit with
  | ':' :: rest =>
      let ds := cs.takeWhile isDecimalDigit
      if ds = [] then none else some (ds, rest)
  | _ => none

/-- The parts of a line that names a place: blanks, the file, and the digits of line and column, each
behind a colon, with a colon at the end. -/
def place? (line : Line) : Option (List Char × List Char × List Char) :=
  if (line.head?.map isBlank) = some true then
    match line.reverse with
    | ':' :: backwards =>
        match digitsToColon? backwards with
        | none => none
        | some (column, backwards) =>
            match digitsToColon? backwards with
            | none => none
            | some (row, backwards) =>
                let file := stripLeft backwards.reverse
                if file = [] then none else some (file, row.reverse, column.reverse)
    | _ => none
  else none

/-- Whether a character divides the number of an excerpt from its text. -/
def isBar (c : Char) : Bool := c = '│' || c = '|'

/-- The parts of an excerpt: the digits of its number, and the text behind a bar and one blank. -/
def excerpt? (line : Line) : Option (List Char × List Char) :=
  let cs := stripLeft line
  let ds := cs.takeWhile isDecimalDigit
  let rest := cs.dropWhile isDecimalDigit
  match stripLeft rest with
  | bar :: text =>
      if isBar bar ∧ ds ≠ [] ∧ (bar :: text).length < rest.length then
        some (ds, skipOne isBlank text)
      else none
  | [] => none

/-- The text of the first excerpt of a line. -/
def readExcerpt (number : Nat) : List Line → Except TooManyDigits (Option String)
  | [] => .ok none
  | line :: lines =>
      match excerpt? line with
      | none => readExcerpt number lines
      | some (ds, text) =>
          match naturalOfDigits ds with
          | .error e => .error e
          | .ok n => if n = number then .ok (some (String.ofList text)) else readExcerpt number lines

/-- The diagnostic of a block: the text of its header and the lines below it. -/
def readBlock (text : String) : List Line → Except TooManyDigits Diagnostic
  | [] => .ok ⟨text, none, none, none, none⟩
  | line :: lines =>
      match place? line with
      | none => readBlock text lines
      | some (file, row, column) => do
          let row ← naturalOfDigits row
          let column ← naturalOfDigits column
          let lineText ← readExcerpt row lines
          return ⟨text, some (String.ofList file), some row, some column, lineText⟩

/-- The blocks of a log, with the lines in front of the first header. -/
def blocks : List Line → List Line × List (String × List Line)
  | [] => ([], [])
  | line :: lines =>
      let (above, below) := blocks lines
      match header? line with
      | some text => ([], (String.ofList text, above) :: below)
      | none => (line :: above, below)

/-- The lines of a log without blanks at their ends. -/
def lines (log : List Char) : List Line :=
  (splitLines log).map stripRight

/-- The diagnostics in a log. -/
def read (log : String) : Except TooManyDigits (List Diagnostic) :=
  (blocks (lines log.toList)).2.mapM fun block => readBlock block.1 block.2

end Log
end VideoBundle
