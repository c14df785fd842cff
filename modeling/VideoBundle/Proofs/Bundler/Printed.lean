import Mathlib.Data.List.TakeWhile
import VideoBundle.Bundler.Bindings
import VideoBundle.HostPackage.ExportNames
import VideoBundle.Proofs.Json.Texts
import VideoBundle.Text.Lines
import VideoBundle.Proofs.Text.Trimming

/-!
# Printed statements

The statements with which a module names others, as the bundler prints them: imports and exports with
their clauses, the specifier in double quotes, each ended by a semicolon and a line feed.  The clause of
a statement is read back as the names it lists.

Main results:

- `listedNames_body`: the names of a list between braces are read back, however it is laid out.
- `ImportClause.names_statement`: the names that an import binds.
- `ExportClause.names_statement`, `ExportClause.isStar_statement`: the names that an export takes from
  another module, and whether it takes them all.
-/

namespace VideoBundle
namespace Esm

open Text

/-! ## Identifiers -/

/-- A text that is an identifier. -/
structure Identifier where
  text : List Char
  valid : isIdentifier text = true

/-- What holds of the characters of identifiers is a matter of the first 128 characters. -/
theorem not_of_isIdentifierPart {q : Char → Bool}
    (hq : ∀ n < 128, isIdentifierPart (Char.ofNat n) = true → q (Char.ofNat n) = false) {c : Char}
    (hc : isIdentifierPart c = true) : q c = false := by
  have hle : ∀ a b : Char, a ≤ b ↔ a.toNat ≤ b.toNat := fun _ _ => Iff.rfl
  have hsmall : c.toNat < 128 := by
    simp only [isIdentifierPart, isIdentifierStart, Bool.or_eq_true, Bool.and_eq_true,
      decide_eq_true_eq, hle] at hc
    rcases hc with (((hc | hc) | rfl) | rfl) | hc
    · exact Nat.lt_of_le_of_lt hc.2 (by decide)
    · exact Nat.lt_of_le_of_lt hc.2 (by decide)
    · decide
    · decide
    · exact Nat.lt_of_le_of_lt hc.2 (by decide)
  have := hq c.toNat hsmall
  rw [Char.ofNat_toNat] at this
  exact this hc

namespace Identifier

/-- Every character of an identifier can stand inside one. -/
theorem isIdentifierPart_of_mem (i : Identifier) {c : Char} (hc : c ∈ i.text) :
    isIdentifierPart c = true := by
  obtain ⟨_ | ⟨first, rest⟩, hvalid⟩ := i
  · cases hc
  · simp only [isIdentifier, Bool.and_eq_true, List.all_eq_true] at hvalid
    rcases List.mem_cons.1 hc with rfl | hc
    · simp [isIdentifierPart, hvalid.1]
    · exact hvalid.2 c hc

theorem ne_nil (i : Identifier) : i.text ≠ [] := by
  intro hnil
  have hvalid := i.valid
  rw [hnil] at hvalid
  exact absurd hvalid (by decide)

/-- An identifier holds no character of a class without letters, digits and the two signs. -/
theorem avoids (i : Identifier) {q : Char → Bool}
    (hq : ∀ n < 128, isIdentifierPart (Char.ofNat n) = true → q (Char.ofNat n) = false) :
    ∀ c ∈ i.text, q c = false :=
  fun _ hc => not_of_isIdentifierPart hq (i.isIdentifierPart_of_mem hc)

/-- An identifier neither begins nor ends with a character of a class without identifier characters. -/
theorem bare (i : Identifier) {q : Char → Bool}
    (hq : ∀ n < 128, isIdentifierPart (Char.ofNat n) = true → q (Char.ofNat n) = false) :
    Bare q i.text :=
  .of_forall i.ne_nil (i.avoids hq)

/-- No blank stands in an identifier. -/
theorem avoids_blank (i : Identifier) : ∀ c ∈ i.text, isBlank c = false :=
  i.avoids (by decide)

end Identifier

/-! ## Lists of names -/

/-- A name in a list, perhaps with another name under which it is known. -/
structure Listed where
  name : Identifier
  renamed : Option Identifier

def Listed.text (item : Listed) : List Char :=
  item.name.text ++ match item.renamed with
    | none => []
    | some other => " as ".toList ++ other.text

/-- The blanks in a list: behind the opening brace, behind each comma, and in front of the closing
brace. -/
structure Layout where
  opening : List Char
  between : List Char
  closing : List Char
  blank_opening : ∀ c ∈ opening, isBlank c = true
  blank_between : ∀ c ∈ between, isBlank c = true
  blank_closing : ∀ c ∈ closing, isBlank c = true

/-- A list on one line. -/
def Layout.oneLine : Layout :=
  ⟨[' '], [' '], [' '], by decide, by decide, by decide⟩

/-- A list on one line, with its braces close to the names. -/
def Layout.tight : Layout :=
  ⟨[], [' '], [], by decide, by decide, by decide⟩

/-- A list with one name on a line. -/
def Layout.stacked : Layout :=
  ⟨['\n', ' ', ' '], ['\n', ' ', ' '], ['\n'], by decide, by decide, by decide⟩

/-- A list of names between braces. -/
structure NameList where
  layout : Layout
  items : List Listed

namespace NameList

/-- What stands between the braces. -/
def body (l : NameList) : List Char :=
  l.layout.opening ++ (',' :: l.layout.between).intercalate (l.items.map Listed.text) ++
    l.layout.closing

def text (l : NameList) : List Char :=
  '\x7b' :: l.body ++ ['\x7d']

/-- The names in front of the other names under which they are known. -/
def names (l : NameList) : List String :=
  l.items.map fun item => String.ofList item.name.text

end NameList

/-! ## Reading lists -/

/-- An item between blanks is read as its name. -/
theorem beforeAlias_item (item : Listed) {front back : List Char}
    (hfront : ∀ c ∈ front, isBlank c = true) (hback : ∀ c ∈ back, isBlank c = true) :
    beforeAlias (front ++ item.text ++ back) = item.name.text := by
  have hscan (cs rest : List Char) (hcs : ∀ c ∈ cs, isBlank c = false) :
      beforeAlias.scan (cs ++ rest) = cs ++ beforeAlias.scan rest := by
    induction cs with
    | nil => rfl
    | cons c cs ih =>
        rw [List.forall_mem_cons] at hcs
        simp [beforeAlias.scan, hcs.1, ih hcs.2]
  have hname : Bare isBlank item.name.text := item.name.bare (by decide)
  obtain ⟨name, renamed⟩ := item
  have hitem : Bare isBlank (Listed.text ⟨name, renamed⟩) := by
    cases renamed with
    | none => simpa [Listed.text] using hname
    | some other =>
        simpa [Listed.text] using hname.append " as ".toList (other.bare (by decide))
  rw [beforeAlias, strip_pad hitem hfront hback, Listed.text, hscan _ _ name.avoids_blank]
  cases renamed with
  | none => simpa [beforeAlias.scan] using strip_eq_self hname
  | some other =>
      -- The blank behind the name opens the alias, so that reading stops there.
      have halias : beforeAlias.scan (" as ".toList ++ other.text) = [] := by
        have hblank : isBlank ' ' = true := by decide
        have hletter : isBlank 'a' = false := by decide
        simp [beforeAlias.scan, beforeAlias.startsAlias, stripLeft, hblank, hletter]
      rw [halias, List.append_nil, strip_eq_self hname]

/-- A character that is no blank does not stand among blanks. -/
theorem ne_of_isBlank {c d : Char} (hd : isBlank d = false) (hc : isBlank c = true) :
    decide (c = d) = false := by
  rw [decide_eq_false_iff_not]
  rintro rfl
  rw [hc] at hd
  cases hd

/-- A class of characters without those of identifiers and the space has none in an item. -/
theorem Listed.avoids (item : Listed) {q : Char → Bool}
    (hq : ∀ n < 128, isIdentifierPart (Char.ofNat n) = true → q (Char.ofNat n) = false)
    (hspace : q ' ' = false) : ∀ c ∈ item.text, q c = false := by
  obtain ⟨name, renamed⟩ := item
  rw [Listed.text, List.forall_mem_append]
  refine ⟨name.avoids hq, ?_⟩
  cases renamed with
  | none => exact List.forall_mem_nil _
  | some other =>
      have hletter : q 'a' = false ∧ q 's' = false :=
        ⟨hq 97 (by decide) (by decide), hq 115 (by decide) (by decide)⟩
      refine List.forall_mem_append.2 ⟨?_, other.avoids hq⟩
      simp [hspace, hletter.1, hletter.2]

/-- An item has no comma. -/
theorem Listed.avoids_comma (item : Listed) : ∀ c ∈ item.text, decide (c = ',') = false :=
  item.avoids (by decide) (by decide)

/-- An item is not blank. -/
theorem Listed.not_blank (item : Listed) (front back : List Char) :
    isBlankText (front ++ item.text ++ back) = false := by
  obtain ⟨c, rest, hname, hc⟩ := (item.name.bare (q := isBlank) (by decide)).first
  simp [isBlankText, Listed.text, hname, hc]

/-- The names in a text that has no comma. -/
theorem listedNames_of_uncut {piece : List Char} (h : ∀ c ∈ piece, decide (c = ',') = false) :
    listedNames piece = if isBlankText piece then [] else [beforeAlias piece] := by
  rw [listedNames, splitWhere_of_uncut h]
  cases hblank : isBlankText piece <;> simp [hblank]

/-- The names in a text with a comma: one in front of it, if anything is there, and those behind. -/
theorem listedNames_append_comma {piece : List Char} (h : ∀ c ∈ piece, decide (c = ',') = false)
    (hblank : isBlankText piece = false) (rest : List Char) :
    listedNames (piece ++ ',' :: rest) = beforeAlias piece :: listedNames rest := by
  rw [listedNames, splitWhere_append_cons h (decide_eq_true rfl),
    List.filter_cons_of_pos (by simp [hblank])]
  rfl

/-- The names of a list are read back. -/
theorem listedNames_items {between closing : List Char} (hbetween : ∀ c ∈ between, isBlank c = true)
    (hclosing : ∀ c ∈ closing, isBlank c = true) (items : List Listed) {front : List Char}
    (hfront : ∀ c ∈ front, isBlank c = true) :
    listedNames (front ++ (',' :: between).intercalate (items.map Listed.text) ++ closing) =
      items.map fun item => item.name.text := by
  have huncut (cs : List Char) (hcs : ∀ c ∈ cs, isBlank c = true) :
      ∀ c ∈ cs, decide (c = ',') = false := fun c hc => ne_of_isBlank (by decide) (hcs c hc)
  induction items generalizing front with
  | nil =>
      have hall : ∀ c ∈ front ++ closing, isBlank c = true :=
        List.forall_mem_append.2 ⟨hfront, hclosing⟩
      have hblank : isBlankText (front ++ closing) = true := List.all_eq_true.2 hall
      rw [List.map_nil, List.intercalate_nil, List.append_nil,
        listedNames_of_uncut (huncut _ hall), if_pos hblank, List.map_nil]
  | cons item items ih =>
      have hitem : ∀ c ∈ front ++ item.text, decide (c = ',') = false :=
        List.forall_mem_append.2 ⟨huncut _ hfront, item.avoids_comma⟩
      cases items with
      | nil =>
          have hlast : ∀ c ∈ front ++ item.text ++ closing, decide (c = ',') = false :=
            List.forall_mem_append.2 ⟨hitem, huncut _ hclosing⟩
          rw [List.map_singleton, List.intercalate_singleton, listedNames_of_uncut hlast,
            item.not_blank, beforeAlias_item item hfront hclosing]
          rfl
      | cons next items =>
          have htext : front ++ (',' :: between).intercalate ((item :: next :: items).map Listed.text) ++
              closing = front ++ item.text ++ ',' :: (between ++
                (',' :: between).intercalate ((next :: items).map Listed.text) ++ closing) := by
            simp [List.intercalate_cons_cons]
          have hblank := item.not_blank front []
          have hread := beforeAlias_item item hfront (List.forall_mem_nil _)
          rw [List.append_nil] at hblank hread
          rw [htext, listedNames_append_comma hitem hblank, hread, ih hbetween]
          rfl

/-- The names of a list between braces are read back, however it is laid out. -/
theorem listedNames_body (l : NameList) :
    listedNames l.body = l.items.map fun item => item.name.text :=
  listedNames_items l.layout.blank_between l.layout.blank_closing l.items l.layout.blank_opening

/-! ## Clauses -/

/-- What an import binds: the standard export, everything under one name, or listed names. -/
inductive ImportClause where
  | standard (name : Identifier)
  | whole (name : Identifier)
  | standardWhole (name everything : Identifier)
  | listed (names : NameList)
  | standardListed (name : Identifier) (names : NameList)

/-- What is exported from another module: everything, everything under one name, or listed names. -/
inductive ExportClause where
  | all
  | whole (name : Identifier)
  | listed (names : NameList)

namespace ImportClause

def text : ImportClause → List Char
  | standard name => name.text
  | whole name => ['*'] ++ " as ".toList ++ name.text
  | standardWhole name everything => name.text ++ ", * as ".toList ++ everything.text
  | listed names => names.text
  | standardListed name names => name.text ++ ", ".toList ++ names.text

/-- The names under which the imported module exports what is bound. -/
def names : ImportClause → List String
  | standard _ | standardWhole _ _ => ["default"]
  | whole _ => []
  | listed names => names.names
  | standardListed _ names => "default" :: names.names

end ImportClause

namespace ExportClause

def text : ExportClause → List Char
  | all => ['*']
  | whole name => ['*'] ++ " as ".toList ++ name.text
  | listed names => names.text

/-- The names under which the other module exports what is taken from it. -/
def names : ExportClause → List String
  | all | whole _ => []
  | listed names => names.names

/-- Whether everything is exported under its own name. -/
def isAll : ExportClause → Bool
  | all => true
  | whole _ | listed _ => false

end ExportClause

/-! ## What clauses are made of -/

/-- A class of characters without identifiers, blanks and commas has none in a list of names. -/
theorem NameList.avoids_body (l : NameList) {q : Char → Bool}
    (hq : ∀ n < 128, isIdentifierPart (Char.ofNat n) = true → q (Char.ofNat n) = false)
    (hblank : ∀ c, isBlank c = true → q c = false) (hcomma : q ',' = false) :
    ∀ c ∈ l.body, q c = false := by
  have hpad (cs : List Char) (hcs : ∀ c ∈ cs, isBlank c = true) : ∀ c ∈ cs, q c = false :=
    fun c hc => hblank c (hcs c hc)
  have hitem (item : Listed) := item.avoids hq (hblank ' ' (by decide))
  have hitems (items : List Listed) :
      ∀ c ∈ (',' :: l.layout.between).intercalate (items.map Listed.text), q c = false := by
    induction items with
    | nil => exact List.forall_mem_nil _
    | cons item items ih =>
        cases items with
        | nil => simpa using hitem item
        | cons next items =>
            rw [List.map_cons, List.map_cons, List.intercalate_cons_cons, ← List.map_cons,
              List.forall_mem_append, List.forall_mem_append, List.forall_mem_cons]
            exact ⟨⟨hitem item, hcomma, hpad _ l.layout.blank_between⟩, ih⟩
  rw [NameList.body, List.forall_mem_append, List.forall_mem_append]
  exact ⟨⟨hpad _ l.layout.blank_opening, hitems _⟩, hpad _ l.layout.blank_closing⟩

/-- A list in braces begins and ends with its braces, so stripping leaves it. -/
theorem NameList.bare_text (l : NameList) : Bare isBlank l.text := by
  have hopen : Bare isBlank ['\x7b'] := .of_forall (List.cons_ne_nil _ _) (by decide)
  have hclose : Bare isBlank ['\x7d'] := .of_forall (List.cons_ne_nil _ _) (by decide)
  exact hopen.append l.body hclose

theorem bare_star : Bare isBlank ['*'] :=
  .of_forall (List.cons_ne_nil _ _) (by decide)

/-- A clause neither starts nor ends with a blank. -/
theorem ImportClause.bare_text (clause : ImportClause) : Bare isBlank clause.text := by
  have hname (name : Identifier) : Bare isBlank name.text := name.bare (by decide)
  cases clause with
  | standard name => exact hname name
  | whole name => exact bare_star.append _ (hname name)
  | standardWhole name everything => exact (hname name).append _ (hname everything)
  | listed names => exact names.bare_text
  | standardListed name names => exact (hname name).append _ names.bare_text

/-- An export clause neither begins nor ends with a blank. -/
theorem ExportClause.bare_text (clause : ExportClause) : Bare isBlank clause.text := by
  cases clause with
  | all => exact bare_star
  | whole name => exact bare_star.append _ (name.bare (by decide))
  | listed names => exact names.bare_text

/-- A blank does not end a clause. -/
theorem endsClause_of_isBlank {c : Char} (h : isBlank c = true) : endsClause c = false := by
  simp only [endsClause, Bool.or_eq_false_iff]
  exact ⟨⟨⟨ne_of_isBlank (by decide) h, ne_of_isBlank (by decide) h⟩,
    ne_of_isBlank (by decide) h⟩, ne_of_isBlank (by decide) h⟩

/-- No identifier holds a character that ends a clause. -/
theorem Identifier.avoids_end (i : Identifier) : ∀ c ∈ i.text, endsClause c = false :=
  i.avoids (by decide)

theorem NameList.avoids_end (l : NameList) : ∀ c ∈ l.text, endsClause c = false := by
  rw [NameList.text, List.forall_mem_append, List.forall_mem_cons]
  exact ⟨⟨by decide, l.avoids_body (by decide) (fun _ => endsClause_of_isBlank) (by decide)⟩,
    by decide⟩

/-- No character of a clause ends it. -/
theorem ImportClause.avoids_end (clause : ImportClause) :
    ∀ c ∈ clause.text, endsClause c = false := by
  cases clause with
  | standard name => exact name.avoids_end
  | whole name =>
      rw [text, List.forall_mem_append, List.forall_mem_append]
      exact ⟨⟨by decide, by decide⟩, name.avoids_end⟩
  | standardWhole name everything =>
      rw [text, List.forall_mem_append, List.forall_mem_append]
      exact ⟨⟨name.avoids_end, by decide⟩, everything.avoids_end⟩
  | listed names => exact names.avoids_end
  | standardListed name names =>
      rw [text, List.forall_mem_append, List.forall_mem_append]
      exact ⟨⟨name.avoids_end, by decide⟩, names.avoids_end⟩

/-- No export clause holds a character that ends one. -/
theorem ExportClause.avoids_end (clause : ExportClause) :
    ∀ c ∈ clause.text, endsClause c = false := by
  cases clause with
  | all => exact List.forall_mem_singleton.2 (by decide)
  | whole name =>
      rw [text, List.forall_mem_append, List.forall_mem_append]
      exact ⟨⟨by decide, by decide⟩, name.avoids_end⟩
  | listed names => exact names.avoids_end

/-! ## Reading clauses -/

/-- A clause without a brace is not cut. -/
theorem cutBraces_of_no_brace {clause : List Char} (h : ∀ c ∈ clause, (c == '\x7b') = false) :
    cutBraces clause = (none, clause) := by
  have hall : clause.dropWhile (· != '\x7b') = [] := by
    rw [List.dropWhile_eq_nil_iff]
    intro c hc
    rw [bne, h c hc]
    rfl
  rw [cutBraces, hall]

/-- A clause is cut at its list of names. -/
theorem cutBraces_list {front : List Char} (h : ∀ c ∈ front, (c == '\x7b') = false)
    (l : NameList) : cutBraces (front ++ l.text) = (some l.body, front) := by
  have hfront : ∀ c ∈ front, (c != '\x7b') = true := fun c hc => by rw [bne, h c hc]; rfl
  have hbody : ∀ c ∈ l.body, (c != '\x7d') = true := by
    have hclass := l.avoids_body (q := fun c => c == '\x7d') (by decide)
      (fun c hc => by simpa using ne_of_isBlank (d := '\x7d') (by decide) hc) (by decide)
    intro c hc
    rw [bne, hclass c hc]
    rfl
  have hopened : (front ++ l.text).dropWhile (· != '\x7b') = '\x7b' :: (l.body ++ ['\x7d']) := by
    rw [List.dropWhile_append_of_pos hfront, NameList.text, List.cons_append]
    rfl
  have hclosed : (l.body ++ ['\x7d']).dropWhile (· != '\x7d') = ['\x7d'] := by
    rw [List.dropWhile_append_of_pos hbody]
    rfl
  have hinside : (l.body ++ ['\x7d']).takeWhile (· != '\x7d') = l.body := by
    rw [List.takeWhile_append_of_pos hbody]
    exact List.append_nil _
  have hbefore : (front ++ l.text).takeWhile (· != '\x7b') = front := by
    rw [List.takeWhile_append_of_pos hfront, NameList.text, List.cons_append]
    exact List.append_nil _
  simp only [cutBraces, hopened, hclosed, hinside, hbefore, List.append_nil]

/-- What stands outside braces is kept when neither a blank nor a comma is at its ends. -/
theorem stripCommas_of_bare {outside : List Char} (hblank : Bare isBlank outside)
    (hcomma : Bare (fun c => decide (c = ',')) outside) :
    strip (stripCommas (strip outside)) = outside := by
  rw [strip_eq_self hblank, stripCommas, hcomma.trim_self, strip_eq_self hblank]

/-- A comma and a blank behind what stands outside braces are dropped. -/
theorem stripCommas_append_comma {outside : List Char} (hblank : Bare isBlank outside)
    (hcomma : Bare (fun c => decide (c = ',')) outside) :
    strip (stripCommas (strip (outside ++ ", ".toList))) = outside := by
  have hcut : Bare isBlank [','] := .of_forall (List.cons_ne_nil _ _) (by decide)
  have hspace : ∀ c ∈ [' '], isBlank c = true := by decide
  have hcommas : ∀ c ∈ [','], decide (c = ',') = true := by decide
  have hstrip : strip (outside ++ ", ".toList) = outside ++ [','] := by
    simpa using strip_pad (hblank.append [] hcut) (List.forall_mem_nil _) hspace
  have htrim := hcomma.trim (List.forall_mem_nil _) hcommas
  rw [List.nil_append] at htrim
  rw [hstrip, stripCommas, htrim, strip_eq_self hblank]

/-- The names of an import whose clause has no braces. -/
theorem names_of_no_brace {clause specifier : List Char}
    (hbrace : ∀ c ∈ clause, (c == '\x7b') = false) (hblank : Bare isBlank clause)
    (hcomma : Bare (fun c => decide (c = ',')) clause) :
    (Statement.mk .importing clause specifier).names =
      if clause.head? ≠ some '*' then ["default"] else [] := by
  simp only [Statement.names, cutBraces_of_no_brace hbrace, stripCommas_of_bare hblank hcomma]
  simp [hblank.ne_nil]

/-- The names of an import with a list, behind what else its clause has. -/
theorem names_of_list {front specifier : List Char} (hbrace : ∀ c ∈ front, (c == '\x7b') = false)
    (l : NameList) :
    (Statement.mk .importing (front ++ l.text) specifier).names =
      (if strip (stripCommas (strip front)) ≠ [] ∧
        (strip (stripCommas (strip front))).head? ≠ some '*' then ["default"] else []) ++ l.names := by
  simp only [Statement.names, cutBraces_list hbrace, Option.map_some, Option.getD_some,
    listedNames_body]
  simp [NameList.names]

/-- An identifier does not begin like a namespace clause. -/
theorem Identifier.head?_ne_star (i : Identifier) (rest : List Char) :
    (i.text ++ rest).head? ≠ some '*' := by
  obtain ⟨c, tail, htext, hc⟩ := (i.bare (q := fun c => decide (c = '*')) (by decide)).first
  rw [htext]
  simpa using hc

/-- An import binds the names that its clause says. -/
theorem ImportClause.names_statement (clause : ImportClause) (specifier : List Char) :
    (Statement.mk .importing clause.text specifier).names = clause.names := by
  have hbrace (i : Identifier) : ∀ c ∈ i.text, (c == '\x7b') = false := i.avoids (by decide)
  have hblank (i : Identifier) : Bare isBlank i.text := i.bare (by decide)
  have hcomma (i : Identifier) : Bare (fun c => decide (c = ',')) i.text := i.bare (by decide)
  have hstar : Bare (fun c => decide (c = ',')) ['*'] :=
    .of_forall (List.cons_ne_nil _ _) (by decide)
  cases clause with
  | standard name =>
      have hhead := name.head?_ne_star []
      rw [List.append_nil] at hhead
      rw [text, names_of_no_brace (hbrace name) (hblank name) (hcomma name), if_pos hhead, names]
  | whole name =>
      have hclause : ∀ c ∈ ['*'] ++ " as ".toList ++ name.text, (c == '\x7b') = false :=
        List.forall_mem_append.2 ⟨by decide, hbrace name⟩
      rw [text, names_of_no_brace hclause (bare_star.append _ (hblank name))
        (hstar.append _ (hcomma name)), names]
      exact if_neg (by simp)
  | standardWhole name everything =>
      have hclause : ∀ c ∈ name.text ++ ", * as ".toList ++ everything.text,
          (c == '\x7b') = false :=
        List.forall_mem_append.2
          ⟨List.forall_mem_append.2 ⟨hbrace name, by decide⟩, hbrace everything⟩
      have hhead := name.head?_ne_star (", * as ".toList ++ everything.text)
      rw [← List.append_assoc] at hhead
      rw [text, names_of_no_brace hclause ((hblank name).append _ (hblank everything))
        ((hcomma name).append _ (hcomma everything)), if_pos hhead, names]
  | listed l =>
      rw [text, ← List.nil_append l.text, names_of_list (List.forall_mem_nil _) l, names]
      rfl
  | standardListed name l =>
      have hclause : ∀ c ∈ name.text ++ ", ".toList, (c == '\x7b') = false :=
        List.forall_mem_append.2 ⟨hbrace name, by decide⟩
      have hhead := name.head?_ne_star []
      rw [List.append_nil] at hhead
      rw [text, names_of_list hclause, stripCommas_append_comma (hblank name) (hcomma name),
        if_pos ⟨name.ne_nil, hhead⟩, names]
      rfl

/-- What an export says in front of a list, or without one. -/
theorem ExportClause.cutBraces_text (clause : ExportClause) :
    cutBraces clause.text = match clause with
      | listed l => (some l.body, [])
      | _ => (none, clause.text) := by
  cases clause with
  | all => exact cutBraces_of_no_brace (by decide)
  | whole name =>
      have hname : ∀ c ∈ name.text, (c == '\x7b') = false := name.avoids (by decide)
      exact cutBraces_of_no_brace (List.forall_mem_append.2 ⟨by decide, hname⟩)
  | listed l => exact cutBraces_list (List.forall_mem_nil _) l

/-- An export takes the names that its clause says from another module. -/
theorem ExportClause.names_statement (clause : ExportClause) (specifier : List Char) :
    (Statement.mk .exporting clause.text specifier).names = clause.names := by
  simp only [Statement.names, cutBraces_text]
  cases clause with
  | all => rfl
  | whole name => rfl
  | listed l =>
      simp only [Option.map_some, Option.getD_some, listedNames_body, names, NameList.names]
      simp

/-- An export takes everything under its own name exactly when its clause is a star. -/
theorem ExportClause.isStar_statement (clause : ExportClause) (specifier : List Char) :
    (Statement.mk .exporting clause.text specifier).isStar = clause.isAll := by
  simp only [Statement.isStar, cutBraces_text]
  cases clause with
  | all => decide
  | whole name =>
      have hstar : Bare (fun c => decide (c = ',')) ['*'] :=
        .of_forall (List.cons_ne_nil _ _) (by decide)
      rw [text, stripCommas_of_bare (bare_star.append _ (name.bare (by decide)))
        (hstar.append _ (name.bare (by decide)))]
      simp [isAll]
  | listed l => rfl

end Esm
end VideoBundle
