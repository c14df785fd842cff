import Mathlib.Data.List.TakeWhile
import VideoBundle.Proofs.Bundler.ReadingBack
import VideoBundle.Proofs.Bundler.Transform

/-!
# Text in template literals

Statements are looked for at the start of every line, also where the line is part of a template literal.
So the lines of a literal's text below its first are read like lines of the module, and an import that is
only quoted can bind what no statement of the module binds.

Main results:

- `statements_quoting`: what is found in a template literal.
- `ofStatements_append_eq_iff`: which statements add nothing to those before them.
- `read_quoting`: when a template literal leaves what is read as it is.
-/

namespace VideoBundle

namespace Esm

/-- The code in front of the text of a template literal. -/
def literalStart : List Char :=
  ['c', 'o', 'n', 's', 't', ' ', 's', ' ', '=', ' ', '\x60']

/-- The code behind the text of a template literal. -/
def literalEnd : List Char :=
  ['\x60', ';', '\n']

/-- Code that binds a text in a template literal. -/
def quoting (quoted : List Char) : List Char :=
  literalStart ++ quoted ++ literalEnd

/-- The lines of that code below its first. -/
def belowFirstLine (quoted : List Char) : List Char :=
  (quoted.dropWhile (· ≠ '\n')).drop 1 ++ literalEnd

/-- The statements with which a module starts. -/
def printedText (head : List Printed) : List Char :=
  head.flatMap Printed.text

/-- Printed statements at the head are found first, whatever follows them. -/
theorem statements_printedText (head : List Printed) (rest : List Char) :
    statements (printedText head ++ rest) = statements (printedText head) ++ statements rest := by
  have hblocks : printedText head = (head.map Block.printed).flatMap Block.text := by
    rw [List.flatMap_map]
    rfl
  have hhead := statements_blocks (head.map Block.printed) []
  rw [List.append_nil, statements_nil, List.append_nil] at hhead
  rw [hblocks, statements_blocks, hhead]

/-- Nothing is found in a line that starts with neither keyword. -/
theorem statements_line (line : OtherLine) (rest : List Char) :
    statements (line.text ++ '\n' :: rest) = statements rest := by
  have hline := statements_blocks [.other line] rest
  rw [List.filterMap_cons_none rfl, List.filterMap_nil, List.nil_append] at hline
  simpa [Block.text] using hline

/-- The first line of the code that binds a text. -/
def openingLine (text : List Char) (h : '\n' ∉ text) : OtherLine where
  text := literalStart ++ text
  one_line := by simp [literalStart, h]
  not_import := by simp [literalStart]
  not_export := by simp [literalStart]

/-- The end of a template literal. -/
def closingLine : OtherLine :=
  ⟨['\x60', ';'], by decide, by decide, by decide⟩

/-- In a template literal the statements below its first line are found. -/
theorem statements_quoting (quoted : List Char) :
    statements (quoting quoted) = statements (belowFirstLine quoted) := by
  by_cases hmem : '\n' ∈ quoted
  · obtain ⟨first, rest, rfl, hfirst⟩ := List.eq_append_cons_of_mem hmem
    have hquoting : quoting (first ++ '\n' :: rest) =
        (openingLine first hfirst).text ++ '\n' :: (rest ++ literalEnd) := by
      simp [quoting, openingLine]
    have hbelow : belowFirstLine (first ++ '\n' :: rest) = rest ++ literalEnd := by
      have hall : ∀ c ∈ first, decide (c ≠ '\n') = true := fun c hc =>
        decide_eq_true (ne_of_mem_of_not_mem hc hfirst)
      rw [belowFirstLine, List.dropWhile_append_of_pos hall]
      rfl
    rw [hquoting, hbelow, statements_line]
  · have hall : ∀ c ∈ quoted, decide (c ≠ '\n') = true := fun c hc =>
      decide_eq_true (ne_of_mem_of_not_mem hc hmem)
    have hline : '\n' ∉ quoted ++ ['\x60', ';'] := by simp [hmem]
    have hquoting : quoting quoted = (openingLine (quoted ++ ['\x60', ';']) hline).text ++ ['\n'] := by
      simp [quoting, openingLine, literalEnd]
    have hbelow : belowFirstLine quoted = closingLine.text ++ ['\n'] := by
      rw [belowFirstLine, List.dropWhile_eq_nil_iff.2 hall]
      rfl
    rw [hquoting, hbelow, statements_line, statements_line]

end Esm

namespace Bindings

/-- Whether a statement with its specifier read says nothing that is not bound already. -/
def Covers (bindings : Bindings) (specifier : String) (s : Esm.Statement) : Prop :=
  (∀ name ∈ s.names, ⟨specifier, name⟩ ∈ bindings.names) ∧
    (s.isStar = true → specifier ∈ bindings.starSources)

/-- Statements add nothing to those before them exactly when these bind all that they say. -/
theorem ofStatements_append_eq_iff (front back : List (String × Esm.Statement)) :
    ofStatements (front ++ back) = ofStatements front ↔
      ∀ found ∈ back, (ofStatements front).Covers found.1 found.2 := by
  have hnames : (∀ b ∈ back.flatMap fun s => s.2.names.map (Binding.mk s.1),
        b ∈ front.flatMap fun s => s.2.names.map (Binding.mk s.1)) ↔
      ∀ found ∈ back, ∀ name ∈ found.2.names, ⟨found.1, name⟩ ∈ (ofStatements front).names := by
    simp only [ofStatements, mem_distinct, List.mem_flatMap, List.mem_map]
    constructor
    · rintro h found hfound name hname
      exact h _ ⟨found, hfound, name, hname, rfl⟩
    · rintro h _ ⟨found, hfound, name, hname, rfl⟩
      exact h found hfound name hname
  have hstars : (∀ specifier ∈ (back.filter (·.2.isStar)).map Prod.fst,
        specifier ∈ (front.filter (·.2.isStar)).map Prod.fst) ↔
      ∀ found ∈ back, found.2.isStar = true → found.1 ∈ (ofStatements front).starSources := by
    rw [List.forall_mem_map]
    simp only [ofStatements, mem_distinct, List.mem_filter, and_imp]
  simp only [Covers, forall₂_and]
  rw [← hnames, ← hstars, ofStatements, ofStatements, Bindings.mk.injEq, List.flatMap_append,
    List.filter_append, List.map_append, distinct_append_eq_iff, distinct_append_eq_iff]

/-- What holds of all statements whose specifiers are read. -/
theorem forall_pairs_iff {statements : List Esm.Statement} {pairs : List (String × Esm.Statement)}
    (h : statements.mapM (fun s : Esm.Statement => s.readSpecifier.map (·, s)) = .ok pairs)
    {p : String → Esm.Statement → Prop} :
    (∀ found ∈ pairs, p found.1 found.2) ↔
      ∀ s ∈ statements, ∃ specifier, s.readSpecifier = .ok specifier ∧ p specifier s := by
  constructor
  · intro hall s hs
    obtain ⟨found, hfound⟩ := exists_mapM_iff.1 ⟨pairs, h⟩ s hs
    obtain ⟨specifier, hread, rfl⟩ := map_eq_ok_iff.1 hfound
    exact ⟨specifier, hread, hall _ ((mem_pairs_iff h).2 ⟨hs, hread⟩)⟩
  · rintro hall ⟨specifier, s⟩ hfound
    obtain ⟨hs, hread⟩ := (mem_pairs_iff h).1 hfound
    obtain ⟨other, hother, hp⟩ := hall s hs
    cases hread.symm.trans hother
    exact hp

/-- More code leaves what is read as it is exactly when the code before is not read, or every statement
that the more code adds is read and says nothing new. -/
theorem read_eq_iff_of_append {code longer : String} {more : List Esm.Statement}
    (h : Esm.statements longer.toList = Esm.statements code.toList ++ more) :
    read longer = read code ↔ ∀ bindings, read code = .ok bindings →
      ∀ s ∈ more, ∃ specifier, s.readSpecifier = .ok specifier ∧ bindings.Covers specifier s := by
  rw [read, read, h, List.mapM_append]
  cases hfront : (Esm.statements code.toList).mapM
      fun s : Esm.Statement => s.readSpecifier.map (·, s) with
  | error e => simp [bind, Except.bind, Except.map]
  | ok front =>
      cases hback : more.mapM fun s : Esm.Statement => s.readSpecifier.map (·, s) with
      | error e =>
          have hunread : ¬∀ s ∈ more, ∃ found, s.readSpecifier.map (·, s) = .ok found := by
            rw [← exists_mapM_iff, hback]
            simp
          constructor
          · intro heq
            cases heq
          · intro hall
            refine absurd (fun s hs => ?_) hunread
            obtain ⟨specifier, hread, _⟩ := hall _ rfl s hs
            exact ⟨(specifier, s), by rw [hread]; rfl⟩
      | ok back =>
          have hcovers := (ofStatements_append_eq_iff front back).trans (forall_pairs_iff hback)
          constructor
          · intro heq bindings hbindings
            cases hbindings
            exact hcovers.1 (Except.ok.inj heq)
          · intro hall
            exact congrArg Except.ok (hcovers.2 (hall _ rfl))

end Bindings

namespace Esm

/-- Behind printed statements, the lines of a template literal below its first are read like lines of the
module.  So what is read stays as it is exactly when these lines have no statement that cannot be read
or that says something new. -/
theorem read_quoting (head : List Printed) (quoted : List Char) :
    Bindings.read (String.ofList (printedText head ++ quoting quoted)) =
        Bindings.read (String.ofList (printedText head ++ belowFirstLine quoted)) ∧
      (Bindings.read (String.ofList (printedText head ++ quoting quoted)) =
          Bindings.read (String.ofList (printedText head)) ↔
        ∀ bindings, Bindings.read (String.ofList (printedText head)) = .ok bindings →
          ∀ s ∈ statements (belowFirstLine quoted),
            ∃ specifier, s.readSpecifier = .ok specifier ∧ bindings.Covers specifier s) := by
  have hstatements : statements (printedText head ++ quoting quoted) =
      statements (printedText head) ++ statements (belowFirstLine quoted) := by
    rw [statements_printedText, statements_quoting]
  constructor
  · simp only [Bindings.read, String.toList_ofList]
    rw [hstatements, statements_printedText]
  · apply Bindings.read_eq_iff_of_append
    rw [String.toList_ofList, String.toList_ofList, hstatements]

/-- Printed statements in a template literal, below its first line, are read like statements of the
module. -/
theorem read_quoting_printed (head quoted : List Printed) :
    Bindings.read (String.ofList (printedText head ++ quoting ('\n' :: printedText quoted))) =
      Bindings.read (String.ofList (printedText head ++ printedText quoted)) := by
  have hbelow : statements (belowFirstLine ('\n' :: printedText quoted)) =
      statements (printedText quoted) := by
    have hclosing : statements (closingLine.text ++ ['\n']) = [] := statements_line closingLine []
    have htext : belowFirstLine ('\n' :: printedText quoted) =
        printedText quoted ++ (closingLine.text ++ ['\n']) := rfl
    rw [htext, statements_printedText, hclosing, List.append_nil]
  simp only [Bindings.read, String.toList_ofList, statements_printedText, statements_quoting, hbelow]

/-- The import of one name from a file beside the module. -/
def importOf (name : Identifier) : Printed :=
  .importing (.listed ⟨.oneLine, [⟨name, none⟩]⟩) neighbour

/-- What is read does change when a template literal quotes the import of another name from a module
that is imported. -/
theorem read_quoting_changes :
    ¬∀ (head : List Printed) (quoted : List Char),
      (∀ c ∈ quoted, c ≠ '\x60' ∧ c ≠ '\\' ∧ c ≠ '$') →
        Bindings.read (String.ofList (printedText head ++ quoting quoted)) =
          Bindings.read (String.ofList (printedText head)) := by
  intro hall
  let a := importOf ⟨['a'], by decide⟩
  let b := importOf ⟨['b'], by decide⟩
  have heq := hall [a] ('\n' :: printedText [b]) (by decide)
  rw [read_quoting_printed] at heq
  have hboth : Bindings.read (String.ofList (printedText [a] ++ printedText [b])) =
      .ok ⟨[⟨"./a", "a"⟩, ⟨"./a", "b"⟩], []⟩ := by
    decide +kernel
  have hone : Bindings.read (String.ofList (printedText [a])) = .ok ⟨[⟨"./a", "a"⟩], []⟩ := by
    decide +kernel
  rw [hboth, hone] at heq
  exact absurd (Except.ok.inj heq) (by decide)

end Esm
end VideoBundle
