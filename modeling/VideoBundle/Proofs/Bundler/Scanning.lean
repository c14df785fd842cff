import VideoBundle.Proofs.Bundler.Printed

/-!
# Finding printed statements

A module is printed as lines and statements.  The scanner finds the statements that name another module
with a clause, each where it was printed: what it takes for a statement neither starts inside another
nor runs on into what follows.

Main results:

- `statement?_printed`: a statement with a clause is read as it was printed.
- `statementsFrom_printed`: what is found in a printed statement, whatever follows it.
- `statements_blocks`: what is found in lines and statements, whatever follows them.
-/

namespace VideoBundle
namespace Esm

open Text

/-! ## What is printed -/

/-- The text of a keyword. -/
def Keyword.text : Keyword → List Char
  | importing => "import".toList
  | exporting => "export".toList

/-- A specifier as it is written between double quotes on one line, with any escapes. -/
structure Written where
  text : List Char
  closed : Json.ClosedBody text
  one_line : '\n' ∉ text

/-- A statement of a printed module. -/
inductive Printed where
  | importing (clause : ImportClause) (specifier : Written)
  /-- An import for its effects only. -/
  | bare (specifier : Written)
  | exporting (clause : ExportClause) (specifier : Written)
  /-- An export of names of the module itself. -/
  | exportingOwn (names : NameList)

/-- A keyword and a clause with a specifier behind them. -/
def clauseText (keyword : Keyword) (clause : List Char) (specifier : Written) : List Char :=
  keyword.text ++ ' ' :: clause ++ " from ".toList ++ '"' :: specifier.text ++ ['"', ';', '\n']

namespace Printed

def text : Printed → List Char
  | importing clause specifier => clauseText .importing clause.text specifier
  | bare specifier => Keyword.importing.text ++ ' ' :: '"' :: specifier.text ++ ['"', ';', '\n']
  | exporting clause specifier => clauseText .exporting clause.text specifier
  | exportingOwn names => Keyword.exporting.text ++ ' ' :: names.text ++ [';', '\n']

/-- The statement that names another module with a clause. -/
def statement? : Printed → Option Statement
  | importing clause specifier => some ⟨.importing, clause.text, specifier.text⟩
  | exporting clause specifier => some ⟨.exporting, clause.text, specifier.text⟩
  | bare _ | exportingOwn _ => none

end Printed

/-- A line that starts with neither keyword. -/
structure OtherLine where
  text : List Char
  one_line : '\n' ∉ text
  not_import : ¬"import".toList <+: text
  not_export : ¬"export".toList <+: text

/-- A part of a printed module. -/
inductive Block where
  | other (line : OtherLine)
  | printed (statement : Printed)

namespace Block

def text : Block → List Char
  | other line => line.text ++ ['\n']
  | printed statement => statement.text

def statement? : Block → Option Statement
  | other _ => none
  | printed statement => statement.statement?

end Block

/-! ## Keywords -/

/-- A keyword stands on one line. -/
theorem Keyword.one_line (keyword : Keyword) : '\n' ∉ keyword.text := by
  cases keyword <;> decide

/-- A keyword is recognised in front of any rest. -/
theorem keyword?_text (keyword : Keyword) (rest : List Char) :
    keyword? (keyword.text ++ rest) = some (keyword, rest) := by
  cases keyword with
  | importing =>
      have hlead : afterLead? "import".toList (Keyword.importing.text ++ rest) = some rest :=
        afterLead?_eq_some_iff.2 rfl
      rw [keyword?, hlead]
  | exporting =>
      have hother : afterLead? "import".toList ("export".toList ++ rest) = none := by
        simp [afterLead?]
      have hlead : afterLead? "export".toList ("export".toList ++ rest) = some rest :=
        afterLead?_eq_some_iff.2 rfl
      change keyword? ("export".toList ++ rest) = _
      rw [keyword?, hother, hlead]
      rfl

/-- A text starts with the keyword that is read from it. -/
theorem eq_of_keyword? {cs rest : List Char} {keyword : Keyword}
    (h : keyword? cs = some (keyword, rest)) : cs = keyword.text ++ rest := by
  unfold keyword? at h
  split at h
  · rename_i hlead
    cases h
    exact afterLead?_eq_some_iff.1 hlead
  · obtain ⟨found, hlead, heq⟩ := Option.map_eq_some_iff.1 h
    cases heq
    exact afterLead?_eq_some_iff.1 hlead

/-- A line that starts with neither keyword has none, whatever follows it. -/
theorem keyword?_other (line : OtherLine) (rest : List Char) :
    keyword? (line.text ++ '\n' :: rest) = none := by
  cases h : keyword? (line.text ++ '\n' :: rest) with
  | none => rfl
  | some found =>
      obtain ⟨keyword, behind⟩ := found
      obtain ⟨more, hmore, _⟩ := exists_eq_append_of_lead keyword.one_line (eq_of_keyword? h)
      cases keyword with
      | importing => exact absurd ⟨more, hmore.symm⟩ line.not_import
      | exporting => exact absurd ⟨more, hmore.symm⟩ line.not_export

/-- A line that is no statement has no keyword, also where the text ends behind it. -/
theorem keyword?_other_end (line : OtherLine) : keyword? line.text = none := by
  cases h : keyword? line.text with
  | none => rfl
  | some found =>
      obtain ⟨keyword, behind⟩ := found
      have hline := eq_of_keyword? h
      cases keyword with
      | importing => exact absurd ⟨behind, hline.symm⟩ line.not_import
      | exporting => exact absurd ⟨behind, hline.symm⟩ line.not_export

/-- Without a keyword there is no statement. -/
theorem statement?_of_no_keyword {cs : List Char} (h : keyword? cs = none) :
    statement? cs = none := by
  rw [statement?, h]

/-! ## One statement -/

/-- A text is cut at the first character that ends a clause. -/
theorem cut_at_end {cs : List Char} (h : ∀ c ∈ cs, endsClause c = false) {d : Char}
    (hd : endsClause d = true) (rest : List Char) :
    (cs ++ d :: rest).dropWhile (!endsClause ·) = d :: rest ∧
      (cs ++ d :: rest).takeWhile (!endsClause ·) = cs := by
  have hcs : ∀ c ∈ cs, (!endsClause c) = true := fun c hc => by
    rw [h c hc]
    rfl
  rw [List.dropWhile_append_of_pos hcs, List.takeWhile_append_of_pos hcs]
  simp [hd]

/-- A written specifier is read up to the quote behind it. -/
theorem specifier?_written {body : List Char} (hclosed : Json.ClosedBody body)
    (hline : '\n' ∉ body) (rest : List Char) :
    specifier? (body ++ '"' :: rest) = some (body, rest) := by
  induction hclosed with
  | nil => rfl
  | @plain c cs hquote hslash _ ih =>
      rw [List.mem_cons, not_or] at hline
      have hc : ¬(c = '\n' ∨ c = '\\') := not_or.2 ⟨Ne.symm hline.1, hslash⟩
      rw [List.cons_append, specifier?.eq_4 _ _ hquote (fun _ _ h => absurd h hslash), if_neg hc,
        ih hline.2]
      rfl
  | @escape c cs _ ih =>
      rw [List.mem_cons, List.mem_cons, not_or, not_or] at hline
      rw [List.cons_append, List.cons_append, specifier?, if_neg (Ne.symm hline.2.1), ih hline.2.2]
      rfl

/-- The clause between a keyword and a quote is read without the blanks around it. -/
theorem clause?_padded {clause : List Char} (h : Bare isBlank clause) :
    clause? (' ' :: clause ++ " from ".toList) = some clause := by
  have hfrom : Bare isBlank "from".toList := .of_forall (by decide) (by decide)
  have hright : stripRight (' ' :: clause ++ " from ".toList) =
      ' ' :: clause ++ [' '] ++ "from".toList := by
    have hspace : ∀ c ∈ [' '], isBlank c = true := by decide
    have hdrop : dropRightWhile isBlank (' ' :: clause ++ [' '] ++ "from".toList ++ [' ']) =
        ' ' :: clause ++ [' '] ++ "from".toList := hfrom.dropRightWhile hspace
    simpa [stripRight] using hdrop
  have hlead : afterLead? "from".toList.reverse (' ' :: clause ++ [' '] ++ "from".toList).reverse =
      some (' ' :: clause ++ [' ']).reverse := by
    rw [afterLead?_eq_some_iff, List.reverse_append]
  have hstrip : strip ([' '] ++ clause ++ [' ']) = clause := strip_pad h (by decide) (by decide)
  rw [clause?, hright, hlead, Option.map_some, List.reverse_reverse]
  exact congrArg some hstrip

/-- A statement with a clause is read as it was printed. -/
theorem statement?_printed (keyword : Keyword) {clause : List Char} (hbare : Bare isBlank clause)
    (hend : ∀ c ∈ clause, endsClause c = false) (specifier : Written) (rest : List Char) :
    statement? (clauseText keyword clause specifier ++ rest) =
      some (⟨keyword, clause, specifier.text⟩, '\n' :: rest) := by
  have htext : clauseText keyword clause specifier ++ rest = keyword.text ++
      ((' ' :: clause ++ " from ".toList) ++ '"' :: (specifier.text ++ '"' :: ';' :: '\n' :: rest)) := by
    simp [clauseText]
  have hbefore : ∀ c ∈ ' ' :: clause ++ " from ".toList, endsClause c = false := by
    rw [List.forall_mem_append, List.forall_mem_cons]
    exact ⟨⟨by decide, hend⟩, by decide⟩
  obtain ⟨hdrop, htake⟩ := cut_at_end hbefore (show endsClause '"' = true by decide)
    (specifier.text ++ '"' :: ';' :: '\n' :: rest)
  rw [htext, statement?, keyword?_text]
  simp only [hdrop, htake, clause?_padded hbare,
    specifier?_written specifier.closed specifier.one_line]
  rfl

/-- Nothing is read where a quote follows a keyword and a blank. -/
theorem statement?_bare (keyword : Keyword) (rest : List Char) :
    statement? (keyword.text ++ ' ' :: '"' :: rest) = none := by
  have hspace : ∀ c ∈ [' '], endsClause c = false := by decide
  obtain ⟨hdrop, htake⟩ := cut_at_end hspace (show endsClause '"' = true by decide) rest
  have hclause : clause? [' '] = none := by decide
  rw [List.singleton_append] at hdrop htake
  rw [statement?, keyword?_text]
  simp only [hdrop, htake, hclause]

/-- Nothing is read where a semicolon is the first character that ends a clause. -/
theorem statement?_before_semicolon {cs : List Char} (h : ∀ c ∈ cs, endsClause c = false)
    (rest : List Char) : statement? (cs ++ ';' :: rest) = none := by
  cases hkeyword : keyword? (cs ++ ';' :: rest) with
  | none => exact statement?_of_no_keyword hkeyword
  | some found =>
      obtain ⟨keyword, behind⟩ := found
      have hsemicolon : ';' ∉ keyword.text := by cases keyword <;> decide
      obtain ⟨more, rfl, rfl⟩ := exists_eq_append_of_lead hsemicolon (eq_of_keyword? hkeyword)
      obtain ⟨hdrop, _⟩ := cut_at_end (List.forall_mem_append.1 h).2
        (show endsClause ';' = true by decide) rest
      rw [statement?, hkeyword]
      simp [hdrop]

/-! ## Going on behind a statement -/

/-- The characters that belong to the statement before are passed over. -/
theorem statementsFrom_skip (passed cs : List Char) (lineStart : Bool) :
    ∃ start, statementsFrom passed.length lineStart (passed ++ cs) = statementsFrom 0 start cs := by
  induction passed generalizing lineStart with
  | nil => exact ⟨lineStart, rfl⟩
  | cons c passed ih => exact ih (c = '\n')

/-- A line feed starts a line. -/
theorem statementsFrom_newline (lineStart : Bool) (rest : List Char) :
    statementsFrom 0 lineStart ('\n' :: rest) = statementsFrom 0 true rest := by
  cases lineStart with
  | false => rfl
  | true =>
      have hkeyword : keyword? ('\n' :: rest) = none := by simp [keyword?, afterLead?]
      rw [statementsFrom, statement?_of_no_keyword hkeyword]
      rfl

/-- Nothing is found in the rest of a line. -/
theorem statementsFrom_line {line : List Char} (h : '\n' ∉ line) (rest : List Char) :
    statementsFrom 0 false (line ++ '\n' :: rest) = statementsFrom 0 true rest := by
  induction line with
  | nil => exact statementsFrom_newline false rest
  | cons c line ih =>
      rw [List.mem_cons, not_or] at h
      have hc : decide (c = '\n') = false := decide_eq_false (Ne.symm h.1)
      rw [List.cons_append, statementsFrom, hc, ih h.2]

/-- Behind the first place of a line nothing begins on that line. -/
theorem statementsFrom_line_end {line : List Char} (h : '\n' ∉ line) :
    statementsFrom 0 false line = [] := by
  induction line with
  | nil => rfl
  | cons c line ih =>
      rw [List.mem_cons, not_or] at h
      have hc : decide (c = '\n') = false := decide_eq_false (Ne.symm h.1)
      rw [statementsFrom, hc, ih h.2]

/-- A line that is no statement is passed over. -/
theorem statementsFrom_no_statement {line : List Char} (h : '\n' ∉ line) {rest : List Char}
    (hnone : statement? (line ++ '\n' :: rest) = none) :
    statementsFrom 0 true (line ++ '\n' :: rest) = statementsFrom 0 true rest := by
  cases line with
  | nil => exact statementsFrom_newline true rest
  | cons c line =>
      rw [List.mem_cons, not_or] at h
      have hc : decide (c = '\n') = false := decide_eq_false (Ne.symm h.1)
      rw [List.cons_append] at hnone ⊢
      rw [statementsFrom, hnone, hc]
      exact statementsFrom_line h.2 rest

/-- Nothing is found in front of a semicolon when no character there ends a clause, also where lines
start. -/
theorem statementsFrom_before_semicolon {cs : List Char} (h : ∀ c ∈ cs, endsClause c = false)
    (rest : List Char) (lineStart : Bool) :
    statementsFrom 0 lineStart (cs ++ ';' :: rest) = statementsFrom 0 false rest := by
  induction cs generalizing lineStart with
  | nil =>
      cases lineStart with
      | false => rfl
      | true =>
          rw [List.nil_append, statementsFrom, ← List.nil_append (';' :: rest),
            statement?_before_semicolon (List.forall_mem_nil _)]
          rfl
  | cons c cs ih =>
      have hnone := statement?_before_semicolon h rest
      rw [List.forall_mem_cons] at h
      rw [List.cons_append] at hnone ⊢
      cases lineStart with
      | false => rw [statementsFrom, ih h.2]
      | true => rw [statementsFrom, hnone, ih h.2]

/-- A statement is found, and the next is looked for behind its line. -/
theorem statementsFrom_statement {text : List Char} {statement : Statement} {rest : List Char}
    (hne : text ≠ []) (h : statement? (text ++ '\n' :: rest) = some (statement, '\n' :: rest)) :
    statementsFrom 0 true (text ++ '\n' :: rest) = statement :: statementsFrom 0 true rest := by
  obtain ⟨c, text, rfl⟩ := List.exists_cons_of_ne_nil hne
  have hlength : (text ++ '\n' :: rest).length - ('\n' :: rest).length = text.length := by
    rw [List.length_append, Nat.add_sub_cancel]
  obtain ⟨start, hstart⟩ := statementsFrom_skip text ('\n' :: rest) (decide (c = '\n'))
  rw [List.cons_append] at h ⊢
  rw [statementsFrom, h]
  simp only [hlength, hstart, statementsFrom_newline]

/-! ## Printed modules -/

/-- What is found in a printed statement, whatever follows it. -/
theorem statementsFrom_printed (p : Printed) (rest : List Char) :
    statementsFrom 0 true (p.text ++ rest) = p.statement?.toList ++ statementsFrom 0 true rest := by
  have hclause (keyword : Keyword) {clause : List Char} (hbare : Bare isBlank clause)
      (hend : ∀ c ∈ clause, endsClause c = false) (specifier : Written) :
      statementsFrom 0 true (clauseText keyword clause specifier ++ rest) =
        ⟨keyword, clause, specifier.text⟩ :: statementsFrom 0 true rest := by
    have hread := statement?_printed keyword hbare hend specifier rest
    have htext : clauseText keyword clause specifier ++ rest =
        (keyword.text ++ ' ' :: clause ++ " from ".toList ++ '"' :: specifier.text ++ ['"', ';']) ++
          '\n' :: rest := by
      simp [clauseText]
    rw [htext] at hread ⊢
    exact statementsFrom_statement (by simp) hread
  cases p with
  | importing clause specifier =>
      rw [Printed.text, hclause .importing clause.bare_text clause.avoids_end specifier]
      rfl
  | exporting clause specifier =>
      rw [Printed.text, hclause .exporting clause.bare_text clause.avoids_end specifier]
      rfl
  | bare specifier =>
      have htext : (Printed.bare specifier).text ++ rest =
          (Keyword.importing.text ++ ' ' :: '"' :: (specifier.text ++ ['"', ';'])) ++ '\n' :: rest := by
        simp [Printed.text]
      have hline : '\n' ∉ Keyword.importing.text ++ ' ' :: '"' :: (specifier.text ++ ['"', ';']) := by
        simp [Keyword.one_line, specifier.one_line]
      have hnone : statement? ((Keyword.importing.text ++ ' ' :: '"' ::
          (specifier.text ++ ['"', ';'])) ++ '\n' :: rest) = none := by
        rw [List.append_assoc]
        exact statement?_bare .importing _
      rw [htext]
      exact statementsFrom_no_statement hline hnone
  | exportingOwn names =>
      have htext : (Printed.exportingOwn names).text ++ rest =
          (Keyword.exporting.text ++ ' ' :: names.text) ++ ';' :: '\n' :: rest := by
        simp [Printed.text]
      have hend : ∀ c ∈ Keyword.exporting.text ++ ' ' :: names.text, endsClause c = false := by
        rw [List.forall_mem_append, List.forall_mem_cons]
        exact ⟨by decide, by decide, names.avoids_end⟩
      rw [htext, statementsFrom_before_semicolon hend, statementsFrom_newline]
      rfl

/-- A block in front of any rest gives its own statement, if it has one, and then those of the
rest. -/
theorem statementsFrom_block (block : Block) (rest : List Char) :
    statementsFrom 0 true (block.text ++ rest) =
      block.statement?.toList ++ statementsFrom 0 true rest := by
  cases block with
  | printed statement => exact statementsFrom_printed statement rest
  | other line =>
      have hnone := statement?_of_no_keyword (keyword?_other line rest)
      rw [Block.text, List.append_assoc, List.singleton_append]
      exact statementsFrom_no_statement line.one_line hnone

/-- The statements of a printed module are those that were printed, and then those of what follows. -/
theorem statements_blocks (blocks : List Block) (rest : List Char) :
    statements (blocks.flatMap Block.text ++ rest) =
      blocks.filterMap Block.statement? ++ statements rest := by
  induction blocks with
  | nil => rfl
  | cons block blocks ih =>
      rw [List.flatMap_cons, List.append_assoc, statements, statementsFrom_block]
      rw [statements] at ih
      rw [ih]
      cases hstatement : block.statement? with
      | none => rw [List.filterMap_cons_none hstatement]; rfl
      | some statement => rw [List.filterMap_cons_some hstatement]; rfl

/-- Nothing is found in a last line that starts with neither keyword. -/
theorem statements_last (line : OtherLine) : statements line.text = [] := by
  have hnone := statement?_of_no_keyword (keyword?_other_end line)
  have hline := line.one_line
  rw [statements]
  cases htext : line.text with
  | nil => rfl
  | cons c rest =>
      rw [htext] at hnone hline
      rw [List.mem_cons, not_or] at hline
      have hc : decide (c = '\n') = false := decide_eq_false (Ne.symm hline.1)
      rw [statementsFrom, hnone, hc]
      exact statementsFrom_line_end hline.2

end Esm
end VideoBundle
