import VideoBundle.Json.Reader
import VideoBundle.Text.Blank
import VideoBundle.Text.Lines
import VideoBundle.Text.Search

/-!
# Import bindings

The bundler writes every import and every export from another module as one statement at the start of
a line: a keyword, a clause, `from`, and the specifier in double quotes.  The clause tells which
names are bound; an export of everything binds no name but is a star source.

Main results:

- `statements_nil`: a text without characters has no statement.
-/

namespace VideoBundle

/-- A name that is imported from a specifier. -/
structure Binding where
  specifier : String
  name : String
deriving DecidableEq, Repr

namespace Esm

open Text

/-- The two keywords of statements that name another module. -/
inductive Keyword where
  | importing
  | exporting
deriving DecidableEq, Repr

/-- A statement that names another module; the specifier is kept as it is written in quotes. -/
structure Statement where
  keyword : Keyword
  clause : List Char
  specifier : List Char
deriving DecidableEq, Repr

/-! ## Statements -/

/-- The keyword at the start of a text, with the rest. -/
def keyword? (cs : List Char) : Option (Keyword × List Char) :=
  match afterLead? "import".toList cs with
  | some rest => some (.importing, rest)
  | none => (afterLead? "export".toList cs).map (.exporting, ·)

/-- Whether a character cannot stand in a clause. -/
def endsClause (c : Char) : Bool :=
  c = ';' || c = '"' || c = '\'' || c = '\x60'

/-- The clause in the text between a keyword and a quote: what stands in front of a closing `from`. -/
def clause? (cs : List Char) : Option (List Char) :=
  (afterLead? "from".toList.reverse (stripRight cs).reverse).map fun backwards =>
    strip backwards.reverse

/-- The written specifier up to its closing quote, with the rest. -/
def specifier? : List Char → Option (List Char × List Char)
  | [] => none
  | '"' :: rest => some ([], rest)
  | '\\' :: c :: rest =>
      if c = '\n' then none
      else (specifier? rest).map fun found => ('\\' :: c :: found.1, found.2)
  | c :: rest =>
      if c = '\n' ∨ c = '\\' then none
      else (specifier? rest).map fun found => (c :: found.1, found.2)

/-- The rest behind a statement's optional semicolon and spaces, if its line ends there. -/
def afterStatement? (cs : List Char) : Option (List Char) :=
  let rest := match cs with
    | ';' :: rest => rest
    | _ => cs
  match rest.dropWhile fun c => c = ' ' || c = '\t' with
  | [] => some []
  | '\n' :: rest => some ('\n' :: rest)
  | _ => none

/-- The statement at the start of a text, with the rest. -/
def statement? (cs : List Char) : Option (Statement × List Char) :=
  match keyword? cs with
  | none => none
  | some (keyword, afterKeyword) =>
      match afterKeyword.dropWhile (!endsClause ·) with
      | '"' :: quoted =>
          match clause? (afterKeyword.takeWhile (!endsClause ·)), specifier? quoted with
          | some clause, some (specifier, rest) =>
              (afterStatement? rest).map fun rest => (⟨keyword, clause, specifier⟩, rest)
          | _, _ => none
      | _ => none

/-- The statements of a text; `skip` characters belong to the statement before, and `lineStart` tells
whether a line starts here. -/
def statementsFrom : (skip : Nat) → (lineStart : Bool) → List Char → List Statement
  | _, _, [] => []
  | skip + 1, _, c :: cs => statementsFrom skip (c = '\n') cs
  | 0, false, c :: cs => statementsFrom 0 (c = '\n') cs
  | 0, true, c :: cs =>
      match statement? (c :: cs) with
      | some (statement, rest) =>
          statement :: statementsFrom (cs.length - rest.length) (c = '\n') cs
      | none => statementsFrom 0 (c = '\n') cs

/-- The statements of a text, in order. -/
def statements (code : List Char) : List Statement :=
  statementsFrom 0 true code

/-- A text without characters has no statement. -/
theorem statements_nil : statements [] = [] := rfl

/-! ## Clauses -/

/-- A clause cut at its first pair of braces: the text inside and the text outside. -/
def cutBraces (clause : List Char) : Option (List Char) × List Char :=
  match clause.dropWhile (· != '\x7b') with
  | [] => (none, clause)
  | _ :: opened =>
      match opened.dropWhile (· != '\x7d') with
      | [] => (none, clause)
      | _ :: rest =>
          (some (opened.takeWhile (· != '\x7d')), clause.takeWhile (· != '\x7b') ++ rest)

/-- The text in front of the first `as` between blanks, with the blanks around it removed. -/
def beforeAlias (item : List Char) : List Char :=
  strip (scan (strip item))
where
  /-- The characters in front of the first `as` between blanks. -/
  scan : List Char → List Char
    | [] => []
    | c :: cs =>
        if isBlank c && startsAlias (stripLeft cs) then [] else c :: scan cs
  /-- Whether a text starts with `as` and a blank. -/
  startsAlias : List Char → Bool
    | 'a' :: 's' :: c :: _ => isBlank c
    | _ => false

/-- The names in a list between braces, each in front of its alias. -/
def listedNames (body : List Char) : List (List Char) :=
  ((splitWhere (· = ',') body).filter fun item => !isBlankText item).map beforeAlias

/-- A text without commas at its ends. -/
def stripCommas (cs : List Char) : List Char :=
  dropRightWhile (· = ',') (cs.dropWhile (· = ','))

/-- The names that a statement binds. -/
def Statement.names (s : Statement) : List String :=
  let (body, outside) := cutBraces s.clause
  let outside := strip (stripCommas (strip outside))
  let standard :=
    if s.keyword = .importing ∧ outside ≠ [] ∧ outside.head? ≠ some '*' then ["default"] else []
  standard ++ ((body.map listedNames).getD []).map String.ofList

/-- Whether a statement exports everything of a module. -/
def Statement.isStar (s : Statement) : Bool :=
  s.keyword = .exporting && strip (stripCommas (strip (cutBraces s.clause).2)) = ['*']

/-- The specifier that a statement writes. -/
def Statement.readSpecifier (s : Statement) : Except Json.Error String :=
  match Json.decode (String.ofList ('"' :: (s.specifier ++ ['"']))) with
  | .ok (.text specifier) => .ok specifier
  | .ok _ => .ok ""
  | .error e => .error e

end Esm

/-- What the statements of a module bind. -/
structure Bindings where
  names : List Binding
  starSources : List String
deriving DecidableEq, Repr

namespace Bindings

/-- The bindings of statements with their specifiers read, without repeats. -/
def ofStatements (statements : List (String × Esm.Statement)) : Bindings where
  names := distinct (statements.flatMap fun s => s.2.names.map (⟨s.1, ·⟩))
  starSources := distinct ((statements.filter (·.2.isStar)).map Prod.fst)

/-- The bindings in a module's code. -/
def read (code : String) : Except Json.Error Bindings :=
  ((Esm.statements code.toList).mapM fun s : Esm.Statement => s.readSpecifier.map (·, s)).map
    ofStatements

end Bindings
end VideoBundle
