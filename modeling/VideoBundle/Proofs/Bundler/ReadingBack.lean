import VideoBundle.Proofs.Bundler.Scanning
import VideoBundle.Proofs.Outcomes

/-!
# Bindings of printed modules

A printed module binds what its statements say, statement by statement.  Reading the module gives back
these bindings and star sources, each at its first occurrence.

Main results:

- `readSpecifier_of_plain`: a specifier without escapes and control characters is read as it stands.
- `ofStatements_blocks`: what the statements of printed blocks bind.
- `read_printed`: what is read from a printed module.
-/

namespace VideoBundle

namespace Esm

namespace Written

/-- A specifier whose characters stand for themselves. -/
def IsPlain (w : Written) : Prop :=
  ∀ c ∈ w.text, Json.IsPlain c

/-- A specifier that is written as it stands. -/
def plain (text : List Char) (h : ∀ c ∈ text, Json.IsPlain c) : Written where
  text
  closed := by
    induction text with
    | nil => exact .nil
    | cons c cs ih =>
        rw [List.forall_mem_cons] at h
        exact .plain h.1.2.1 h.1.2.2 (ih h.2)
  one_line := fun hmem => absurd (h _ hmem) (by decide)

end Written

namespace Printed

/-- The specifier in a statement, if it names another module. -/
def specifier? : Printed → Option Written
  | importing _ specifier | bare specifier | exporting _ specifier => some specifier
  | exportingOwn _ => none

/-- The bindings that a statement with a plain specifier says. -/
def bindings : Printed → List Binding
  | importing clause specifier => clause.names.map (⟨String.ofList specifier.text, ·⟩)
  | exporting clause specifier => clause.names.map (⟨String.ofList specifier.text, ·⟩)
  | bare _ | exportingOwn _ => []

/-- The module of which a statement exports everything. -/
def starSource? : Printed → Option String
  | exporting .all specifier => some (String.ofList specifier.text)
  | exporting (.whole _) _ | exporting (.listed _) _ => none
  | importing _ _ | bare _ | exportingOwn _ => none

end Printed

namespace Block

def bindings : Block → List Binding
  | other _ => []
  | printed statement => statement.bindings

def starSource? : Block → Option String
  | other _ => none
  | printed statement => statement.starSource?

/-- Whether the specifier in a part of a printed module, if it has one, is plain. -/
def HasPlainSpecifier : Block → Prop
  | other _ => True
  | printed statement => ∀ specifier ∈ statement.specifier?, specifier.IsPlain

end Block

/-! ## What statements say -/

/-- A specifier whose characters stand for themselves is read as it stands. -/
theorem readSpecifier_of_plain {s : Statement} (h : ∀ c ∈ s.specifier, Json.IsPlain c) :
    s.readSpecifier = .ok (String.ofList s.specifier) := by
  rw [Statement.readSpecifier, Json.decode_quoted_of_plain h]

/-- The bindings of a part are those of the statement that is found in it. -/
theorem Block.bindings_eq (block : Block) :
    block.bindings = block.statement?.toList.flatMap fun s =>
      s.names.map (⟨String.ofList s.specifier, ·⟩) := by
  cases block with
  | other line => rfl
  | printed statement =>
      cases statement with
      | importing clause specifier =>
          simp [bindings, Printed.bindings, statement?, Printed.statement?,
            ImportClause.names_statement]
      | exporting clause specifier =>
          simp [bindings, Printed.bindings, statement?, Printed.statement?,
            ExportClause.names_statement]
      | bare specifier => rfl
      | exportingOwn names => rfl

/-- An import is no star source. -/
theorem isStar_importing (clause specifier : List Char) :
    (Statement.mk .importing clause specifier).isStar = false := rfl

/-- The star source of a part is that of the statement that is found in it. -/
theorem Block.starSource?_eq (block : Block) :
    block.starSource? =
      (block.statement?.filter (·.isStar)).map fun s => String.ofList s.specifier := by
  cases block with
  | other line => rfl
  | printed statement =>
      cases statement with
      | importing clause specifier =>
          simp [starSource?, Printed.starSource?, statement?, Printed.statement?, Option.filter,
            isStar_importing]
      | exporting clause specifier =>
          simp only [starSource?, statement?, Printed.statement?, Option.filter,
            ExportClause.isStar_statement]
          cases clause <;> rfl
      | bare specifier => rfl
      | exportingOwn names => rfl

/-- The specifiers of the statements that are found are plain when those that were printed are. -/
theorem Block.plain_of_statement? {block : Block} (h : block.HasPlainSpecifier) {s : Statement}
    (hs : block.statement? = some s) : ∀ c ∈ s.specifier, Json.IsPlain c := by
  cases block with
  | other line => cases hs
  | printed statement =>
      cases statement with
      | importing clause specifier =>
          cases hs
          exact h specifier rfl
      | exporting clause specifier =>
          cases hs
          exact h specifier rfl
      | bare specifier => cases hs
      | exportingOwn names => cases hs

/-! ## What modules say -/

/-- The bindings of the statements that are found in printed parts. -/
theorem flatMap_bindings (blocks : List Block) :
    blocks.flatMap Block.bindings = (blocks.filterMap Block.statement?).flatMap fun s =>
      s.names.map (⟨String.ofList s.specifier, ·⟩) := by
  induction blocks with
  | nil => rfl
  | cons block blocks ih =>
      rw [List.flatMap_cons, block.bindings_eq, ih]
      cases hstatement : block.statement? with
      | none => rw [List.filterMap_cons_none hstatement]; rfl
      | some s => rw [List.filterMap_cons_some hstatement]; simp

/-- The star sources of the statements that are found in printed parts. -/
theorem filterMap_starSource? (blocks : List Block) :
    blocks.filterMap Block.starSource? =
      ((blocks.filterMap Block.statement?).filter (·.isStar)).map fun s =>
        String.ofList s.specifier := by
  induction blocks with
  | nil => rfl
  | cons block blocks ih =>
      rw [List.filterMap_cons, List.filterMap_cons, block.starSource?_eq, ih]
      cases hstatement : block.statement? with
      | none => rfl
      | some s => by_cases hstar : s.isStar = true <;> simp [hstar, Option.filter]

/-- The statements of printed parts bind what the parts say. -/
theorem ofStatements_blocks (blocks : List Block) :
    Bindings.ofStatements ((blocks.filterMap Block.statement?).map fun s =>
        (String.ofList s.specifier, s)) =
      ⟨(blocks.flatMap Block.bindings).eraseDups, (blocks.filterMap Block.starSource?).eraseDups⟩ := by
  rw [Bindings.ofStatements, distinct_eq_eraseDups, distinct_eq_eraseDups, List.flatMap_map,
    List.filter_map, List.map_map, flatMap_bindings, filterMap_starSource?]
  rfl

/-- From a module that is printed line by line and statement by statement, with plain specifiers,
exactly the bindings and the star sources are read that its statements say. -/
theorem read_printed {blocks : List Block} (hplain : ∀ block ∈ blocks, block.HasPlainSpecifier)
    (last : OtherLine) :
    Bindings.read (String.ofList (blocks.flatMap Block.text ++ last.text)) =
      .ok ⟨(blocks.flatMap Block.bindings).eraseDups,
        (blocks.filterMap Block.starSource?).eraseDups⟩ := by
  have hread : ∀ s ∈ blocks.filterMap Block.statement?,
      s.readSpecifier.map (·, s) = .ok (String.ofList s.specifier, s) := by
    intro s hs
    obtain ⟨block, hblock, hstatement⟩ := List.mem_filterMap.1 hs
    rw [readSpecifier_of_plain (Block.plain_of_statement? (hplain block hblock) hstatement)]
    rfl
  rw [Bindings.read, String.toList_ofList, statements_blocks, statements_last, List.append_nil,
    mapM_eq_ok_map hread, ← ofStatements_blocks]
  rfl

/-- The specifier of a file beside the module. -/
def neighbour : Written :=
  .plain ['.', '/', 'a'] (by decide)

/-- Every form of statement once, with names that are keywords elsewhere, and a line of other code. -/
def everyForm : List Block :=
  let a : Identifier := ⟨['a'], by decide⟩
  let standardName : Identifier := ⟨['d', 'e', 'f', 'a', 'u', 'l', 't'], by decide⟩
  let fromName : Identifier := ⟨['f', 'r', 'o', 'm'], by decide⟩
  let asName : Identifier := ⟨['a', 's'], by decide⟩
  let there : Written := .plain ['r', 'e', 'a', 'c', 't'] (by decide)
  [ .printed (.importing (.standardListed fromName
      ⟨.stacked, [⟨asName, none⟩, ⟨standardName, some a⟩]⟩) neighbour),
    .printed (.importing (.standard asName) there),
    .printed (.importing (.whole fromName) there),
    .other ⟨['l', 'e', 't', ' ', 'a', ';'], by decide, by decide, by decide⟩,
    .printed (.importing (.standardWhole fromName asName) neighbour),
    .printed (.importing (.listed ⟨.tight, [⟨asName, some asName⟩, ⟨a, none⟩]⟩) neighbour),
    .printed (.bare neighbour),
    .printed (.exporting (.listed ⟨.oneLine, [⟨fromName, some standardName⟩]⟩) there),
    .printed (.exporting .all there),
    .printed (.exporting (.whole asName) neighbour),
    .printed (.exportingOwn ⟨.oneLine, [⟨a, none⟩]⟩),
    .printed (.exporting .all neighbour) ]

/-- What is read from a module with every form of statement and an unfinished last line. -/
theorem read_printed_everyForm :
    (∀ block ∈ everyForm, block.HasPlainSpecifier) ∧
      everyForm.map (fun block => String.ofList block.text) =
        [ "import from, \x7b\n  as,\n  default as a\n\x7d from \"./a\";\n",
          "import as from \"react\";\n",
          "import * as from from \"react\";\n",
          "let a;\n",
          "import from, * as as from \"./a\";\n",
          "import \x7bas as as, a\x7d from \"./a\";\n",
          "import \"./a\";\n",
          "export \x7b from as default \x7d from \"react\";\n",
          "export * from \"react\";\n",
          "export * as as from \"./a\";\n",
          "export \x7b a \x7d;\n",
          "export * from \"./a\";\n" ] ∧
      Bindings.read (String.ofList (everyForm.flatMap Block.text ++ ['l', 'e', 't', ' ', 'b'])) =
        .ok ⟨[⟨"./a", "default"⟩, ⟨"./a", "as"⟩, ⟨"react", "default"⟩, ⟨"./a", "a"⟩,
          ⟨"react", "from"⟩], ["react", "./a"]⟩ := by
  have hplain : ∀ block ∈ everyForm, block.HasPlainSpecifier := by
    simp [everyForm, Block.HasPlainSpecifier, Printed.specifier?, Written.IsPlain, Written.plain,
      neighbour, Json.IsPlain]
  have hread := read_printed hplain ⟨['l', 'e', 't', ' ', 'b'], by decide, by decide, by decide⟩
  refine ⟨hplain, by rfl, hread.trans (congrArg Except.ok ?bindings)⟩
  case bindings => decide +kernel

end Esm
end VideoBundle
