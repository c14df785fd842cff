import VideoBundle.Proofs.Module.ImportSources

/-!
# Import sites in lines of imports

The site that is found for a name and a specifier in a source whose lines are imports of lists of names.
The search through such a source is one through the lines that import the specifier, each with the
offset at which it starts; lines do not overlap, so the offset that is found tells the line.

Main results:

- `locate_source`: the site is what is found in the lines that import the specifier.
- `siteOffset_eq_iff_of_listed`, `siteOffset_eq_iff_of_unlisted`: when the offset is that of the first
  listed place, and when it is the start of the first line.
- `locate_eq_iff`: when the site is the first listed place of the name, and when the first statement
  stands in for a name that no statement lists.
-/

namespace VideoBundle

open Text ImportSite
open Esm (Identifier)

namespace ImportLine

/-! ## The site in a source -/

variable {n : Identifier}

/-- The offset of the site: the name in the first line that holds it, else the first start of a
search that is not zero. -/
def siteOffset (n : Identifier) (ps : List Placed) : Nat :=
  (ps.findSome? (Placed.found? n)).getD (((ps.map Placed.start).find? (· ≠ 0)).getD 0)

/-- The search in a source goes through a line as it goes through the line alone. -/
theorem search_placed {lines : List ImportLine} {p : Placed} (hp : p ∈ placed 0 lines)
    (ended : Bool) (n : Identifier) :
    statementStart? ((source lines ended).take p.quote) = some p.start ∧
      nameInStatement? (source lines ended) n.text p.start p.quote = p.found? n := by
  obtain ⟨before, after, rfl, hoffset⟩ := exists_of_mem_placed hp
  rw [Nat.zero_add] at hoffset
  have hsource : source (before ++ p.line :: after) ended = closedText before ++ p.line.lead ++
      ('"' :: p.line.specifier.toList ++ ['"', ';'] ++ behindLine after ended) := by
    rw [source_append_cons, text]
    simp only [List.append_assoc, List.cons_append]
  rw [Placed.quote, Placed.start, Placed.found?, hoffset, hsource]
  constructor
  · rw [← List.length_append, List.take_left]
    exact statementStart?_append _ p.line.statementStart?_lead
  · exact nameInStatement?_line (endsLine_closedText before) _ _
      (Nat.le_of_add_right_le p.line.start_add_le)

/-- Over placed lines the offset is the first that is found, or else the first start that counts.
-/
theorem offsetFrom_placed (hdefault : n.text ≠ "default".toList) {lines : List ImportLine}
    (ended : Bool) {ps : List Placed} (hps : ∀ p ∈ ps, p ∈ placed 0 lines) (fallback : Nat) :
    offsetFrom (source lines ended) n.text fallback (ps.map Placed.quote) =
      (ps.findSome? (Placed.found? n)).getD
        (((fallback :: ps.map Placed.start).find? (· ≠ 0)).getD 0) := by
  induction ps generalizing fallback with
  | nil => by_cases hzero : fallback = 0 <;> simp [offsetFrom, hzero]
  | cons p ps ih =>
      rw [List.forall_mem_cons] at hps
      obtain ⟨hstart, hfound⟩ := search_placed hps.1 ended n
      rw [List.map_cons, offsetFrom, hstart]
      simp only [if_neg hdefault, hfound, List.findSome?_cons]
      cases p.found? n with
      | some offset => rfl
      | none =>
          rw [ih hps.2]
          by_cases hzero : fallback = 0 <;> simp [hzero]

/-- The site of a name is what is found in the lines that import the specifier. -/
theorem locate_source (hdefault : n.text ≠ "default".toList) (lines : List ImportLine)
    (ended : Bool) (s : ImportLine) :
    locate (String.ofList (source lines ended)) s.specifier (String.ofList n.text) =
      atOffset (source lines ended) (siteOffset n (importing s.specifier (placed 0 lines))) := by
  have hps : ∀ p ∈ importing s.specifier (placed 0 lines), p ∈ placed 0 lines := fun p hp =>
    List.mem_of_mem_filter hp
  rw [locate, String.toList_ofList, String.toList_ofList, matchOffsets_source,
    offsetFrom_placed hdefault ended hps, siteOffset, List.find?_cons_of_neg (by simp)]

/-- The place in a source is the place in the line, moved by the line's own. -/
theorem found?_eq_some_iff {p : Placed} {offset : Nat} :
    p.found? n = some offset ↔ ∃ i, p.line.find? n = some i ∧ p.offset + i = offset := by
  rw [Placed.found?, Option.map_eq_some_iff]

/-- A name is found between the start of its statement and the quote of the specifier. -/
theorem bounds_of_found? {p : Placed} {offset : Nat} (h : p.found? n = some offset) :
    p.start ≤ offset ∧ offset ≤ p.quote := by
  obtain ⟨i, hi, rfl⟩ := found?_eq_some_iff.1 h
  obtain ⟨hstart, hlead⟩ := bounds_of_find? n hi
  exact ⟨Nat.add_le_add_left hstart _, Nat.add_le_add_left hlead _⟩

/-- The site lies in one of the lines, behind the start of the search in it, unless it is the start of
the source. -/
theorem siteOffset_bounds (n : Identifier) (ps : List Placed) :
    siteOffset n ps = 0 ∨ ∃ p ∈ ps, p.start ≤ siteOffset n ps ∧ siteOffset n ps ≤ p.quote := by
  rw [siteOffset]
  cases hfound : ps.findSome? (Placed.found? n) with
  | some offset =>
      obtain ⟨p, hp, hoffset⟩ := List.exists_of_findSome?_eq_some hfound
      exact .inr ⟨p, hp, bounds_of_found? hoffset⟩
  | none =>
      cases hstart : (ps.map Placed.start).find? (· ≠ 0) with
      | none => exact .inl rfl
      | some offset =>
          obtain ⟨p, hp, rfl⟩ := List.mem_map.1 (List.mem_of_find?_eq_some hstart)
          have := p.line.start_add_le
          refine .inr ⟨p, hp, Nat.le_refl _, ?_⟩
          simp only [Option.getD_none, Option.getD_some, Placed.start, Placed.quote]
          omega

/-- A name that is listed first in some line is found there exactly when no line in front of it holds
the name, and the search in the line starts in front of the name. -/
theorem siteOffset_eq_iff_of_listed {front back : List Placed} {st : ImportLine} {o column : Nat}
    (hfront : ∀ p ∈ front, p.quote < o) (hback : ∀ p ∈ back, o + st.lead.length < p.offset)
    (hpos : 0 < column) (hcolumn : column ≤ st.lead.length)
    (hfind : st.start ≤ column → st.find? n = some column) :
    siteOffset n (front ++ ⟨o, st⟩ :: back) = o + column ↔
      (∀ p ∈ front, p.line.find? n = none) ∧ st.start ≤ column := by
  constructor
  · intro hsite
    constructor
    · intro p hp
      by_contra hsome
      -- A line in front that holds the name decides, and lies in front of the offset.
      have hfound : front.findSome? (Placed.found? n) ≠ none := fun hnone => by
        have := List.findSome?_eq_none_iff.1 hnone p hp
        rw [Placed.found?, Option.map_eq_none_iff] at this
        exact hsome this
      obtain ⟨offset, hoffset⟩ := Option.ne_none_iff_exists'.1 hfound
      obtain ⟨q, hq, hq'⟩ := List.exists_of_findSome?_eq_some hoffset
      rw [siteOffset, List.findSome?_append, hoffset, Option.some_or, Option.getD_some] at hsite
      have := hfront q hq
      have := (bounds_of_found? hq').2
      omega
    · rcases siteOffset_bounds n (front ++ ⟨o, st⟩ :: back) with hzero | ⟨p, hp, hstart, hquote⟩
      · omega
      · rw [hsite] at hstart hquote
        rcases List.mem_append.1 hp with hp | hp
        · have := hfront p hp
          omega
        · rcases List.mem_cons.1 hp with rfl | hp
          · exact Nat.le_of_add_le_add_left hstart
          · have := hback p hp
            rw [Placed.start] at hstart
            omega
  · rintro ⟨hnone, hstart⟩
    have hfront' : front.findSome? (Placed.found? n) = none := by
      rw [List.findSome?_eq_none_iff]
      intro p hp
      rw [Placed.found?, hnone p hp, Option.map_none]
    have hfound : Placed.found? n ⟨o, st⟩ = some (o + column) :=
      found?_eq_some_iff.2 ⟨column, hfind hstart, rfl⟩
    rw [siteOffset, List.findSome?_append, hfront', Option.none_or, List.findSome?_cons, hfound]
    rfl

/-- The start of the first line is the first that is not zero, and where the line starts, exactly when
the search starts with the line and the line is not the only one to start at zero. -/
theorem firstStart_eq_iff {back : List Placed} {st : ImportLine} {o : Nat}
    (hback : ∀ p ∈ back, o + st.lead.length < p.offset) :
    (((⟨o, st⟩ :: back).map Placed.start).find? (· ≠ 0)).getD 0 = o ↔
      st.start = 0 ∧ (o ≠ 0 ∨ back = []) := by
  have hstart : Placed.start ⟨o, st⟩ = o + st.start := rfl
  rw [List.map_cons, hstart]
  by_cases hzero : o + st.start = 0
  · obtain ⟨rfl, hst⟩ := Nat.add_eq_zero_iff.1 hzero
    rw [List.find?_cons_of_neg (by simp [hst])]
    cases back with
    | nil => exact iff_of_true rfl ⟨hst, .inr rfl⟩
    | cons p back =>
        have hbehind := hback p List.mem_cons_self
        have hlate : p.start ≠ 0 := by
          rw [Placed.start]
          omega
        rw [List.map_cons, List.find?_cons_of_pos (by rwa [decide_eq_true_eq]), Option.getD_some]
        exact iff_of_false hlate (by simp)
  · rw [List.find?_cons_of_pos (by rwa [decide_eq_true_eq]), Option.getD_some, Nat.add_eq_left]
    constructor
    · exact fun hst => ⟨hst, .inl fun ho => hzero (by rw [ho, hst])⟩
    · exact And.left

/-- The first line stands in for a name that no line lists exactly when the name is not found behind the
start of the line as a keyword of the statement, the search starts with the line, and this start is
found or counts. -/
theorem siteOffset_eq_iff_of_unlisted {back : List Placed} {st : ImportLine} {o : Nat}
    (hback : ∀ p ∈ back, o + st.lead.length < p.offset) (hst : n ∉ st.names)
    (hnames : ∀ p ∈ back, n ∉ p.line.names) :
    siteOffset n (⟨o, st⟩ :: back) = o ↔
      n.text ≠ "from".toList ∧ st.start = 0 ∧
        (n.text = "import".toList ∨ o ≠ 0 ∨ back = []) := by
  cases hfind : st.find? n with
  | some i =>
      have hfound : Placed.found? n ⟨o, st⟩ = some (o + i) :=
        found?_eq_some_iff.2 ⟨i, hfind, rfl⟩
      rw [siteOffset, List.findSome?_cons, hfound, Option.getD_some]
      rcases find?_eq_some_of_not_mem hst hfind with ⟨rfl, hzero, himport⟩ | ⟨hfrom, hi⟩
      · refine iff_of_true rfl ⟨?_, hzero, .inl himport⟩
        rw [himport]
        decide
      · have := st.start_add_le
        exact iff_of_false (by omega) fun h => h.1 hfrom
  | none =>
      obtain ⟨hfrom, himport⟩ := (find?_eq_none_iff hst).1 hfind
      have hfound : Placed.found? n ⟨o, st⟩ = none := by
        rw [Placed.found?, hfind, Option.map_none]
      rw [siteOffset, List.findSome?_cons, hfound]
      dsimp only
      cases hlater : back.findSome? (Placed.found? n) with
      | some offset =>
          -- The name is the keyword that starts a later statement, and the search in the first
          -- statement passes this keyword.
          obtain ⟨p, hp, hoffset⟩ := List.exists_of_findSome?_eq_some hlater
          have hbehind := hback p hp
          have hstart := (bounds_of_found? hoffset).1
          rw [Placed.start] at hstart
          refine iff_of_false (by simp only [Option.getD_some]; omega) fun h => ?_
          obtain ⟨i, hi, -⟩ := found?_eq_some_iff.1 hoffset
          rcases find?_eq_some_of_not_mem (hnames p hp) hi with ⟨-, -, hn⟩ | ⟨hn, -⟩
          · exact himport hn h.2.1
          · exact hfrom hn
      | none =>
          rw [Option.getD_none, firstStart_eq_iff hback, and_iff_right hfrom]
          refine and_congr_right fun hzero => ?_
          rw [or_iff_right fun hn => himport hn hzero]

/-- A site that is found lies in the source. -/
theorem siteOffset_le {lines : List ImportLine} (ended : Bool) {ps : List Placed}
    (hps : ∀ p ∈ ps, p ∈ placed 0 lines) : siteOffset n ps ≤ (source lines ended).length := by
  rcases siteOffset_bounds n ps with hzero | ⟨p, hp, -, hquote⟩
  · omega
  · obtain ⟨before, after, rfl, hoffset⟩ := exists_of_mem_placed (hps p hp)
    have := p.line.length_lead_lt
    rw [Placed.quote] at hquote
    rw [source_append_cons, List.length_append, List.length_append]
    omega

/-- A column of a line is the site exactly when the offset that is found is that of the column. -/
theorem locate_eq_iff_siteOffset (hdefault : n.text ≠ "default".toList)
    (before after : List ImportLine) (st : ImportLine) (ended : Bool) {column : Nat}
    (hcolumn : column ≤ st.text.length) :
    locate (String.ofList (source (before ++ st :: after) ended)) st.specifier
        (String.ofList n.text) = ⟨before.length + 1, column, String.ofList st.text⟩ ↔
      siteOffset n (importing st.specifier (placed 0 (before ++ st :: after))) =
        (closedText before).length + column := by
  have hsource := source_append_cons before after st ended
  have hplace : atOffset (source (before ++ st :: after) ended)
      ((closedText before).length + column) =
        ⟨before.length + 1, column, String.ofList st.text⟩ := by
    rw [hsource, atOffset_line (endsLine_closedText before)
      (startsBehindLine_behindLine after ended) st.newline_not_mem_text hcolumn, count_closedText]
  have hlength : (closedText before).length + column ≤
      (source (before ++ st :: after) ended).length := by
    rw [hsource, List.length_append, List.length_append]
    omega
  rw [locate_source hdefault, ← hplace]
  exact atOffset_inj (siteOffset_le ended fun p hp => List.mem_of_mem_filter hp) hlength

/-- The lines of a source that import what one of them imports. -/
theorem importing_placed (before after : List ImportLine) (st : ImportLine) :
    importing st.specifier (placed 0 (before ++ st :: after)) =
      importing st.specifier (placed 0 before) ++ ⟨(closedText before).length, st⟩ ::
        importing st.specifier
          (placed ((closedText before).length + st.text.length + 1) after) := by
  rw [placed_append, importing, List.filter_append, Nat.zero_add, placed,
    List.filter_cons_of_pos (by simp), importing, importing]

/-! ## When the site is the import -/

theorem column_pos (front : List Identifier) : 0 < column front := by
  have hopening : opening.length = 9 := rfl
  rw [column, List.length_append, hopening]
  omega

theorem column_le_length {l : ImportLine} {front back : List Identifier}
    (h : l.names = front ++ n :: back) : column front ≤ l.lead.length := by
  rw [lead_of_names h, List.length_append, column]
  exact Nat.le_add_right _ _

/-- A line without the name is passed exactly when the name is not one of its keywords behind the start
of the search. -/
theorem find?_eq_none_iff_of_keywords {l : ImportLine} (hn : n ∉ l.names) :
    l.find? n = none ↔ n.text ≠ "from".toList ∧
      (n.text = "import".toList → ∃ name ∈ l.names, MentionsKeyword name.text) := by
  have hstart : l.start ≠ 0 ↔ ∃ name ∈ l.names, MentionsKeyword name.text := by
    simp [start_eq_zero_iff]
  rw [find?_eq_none_iff hn, hstart]

/-- When the site of a name is where the name is listed first. -/
theorem locate_listed_iff (before after : List ImportLine) (st : ImportLine) (ended : Bool)
    (hdefault : n.text ≠ "default".toList) {front back : List Identifier}
    (hst : st.names = front ++ n :: back) (hfirst : n ∉ front)
    (hbefore : ∀ l ∈ before, l.specifier = st.specifier → n ∉ l.names) :
    locate (String.ofList (source (before ++ st :: after) ended)) st.specifier
        (String.ofList n.text) = ⟨before.length + 1, column front, String.ofList st.text⟩ ↔
      (∀ l ∈ before, l.specifier = st.specifier → n.text ≠ "from".toList ∧
        (n.text = "import".toList → ∃ name ∈ l.names, MentionsKeyword name.text)) ∧
      ¬MentionsKeyword n.text.tail ∧ ∀ name ∈ back, ¬MentionsKeyword name.text := by
  have hcolumn := column_le_length hst
  have hlead := st.length_lead_lt
  have hpassed : (∀ p ∈ importing st.specifier (placed 0 before), p.line.find? n = none) ↔
      ∀ l ∈ before, l.specifier = st.specifier → n.text ≠ "from".toList ∧
        (n.text = "import".toList → ∃ name ∈ l.names, MentionsKeyword name.text) := by
    rw [forall_importing_iff (P := fun l => l.find? n = none)]
    refine forall_congr' fun l => forall_congr' fun hl => forall_congr' fun hsame => ?_
    exact find?_eq_none_iff_of_keywords (hbefore l hl hsame)
  rw [locate_eq_iff_siteOffset hdefault _ _ _ _ (by omega), importing_placed,
    siteOffset_eq_iff_of_listed ?hfront ?hback (column_pos front) hcolumn
      (find?_listed hst hfirst), hpassed, start_le_column_iff hst]
  case hfront =>
    intro p hp
    have := quote_lt_of_mem_placed (List.mem_of_mem_filter hp)
    omega
  case hback =>
    intro p hp
    have := offset_le_of_mem_placed (List.mem_of_mem_filter hp)
    omega

/-- When the start of a statement stands in for a name that no statement lists. -/
theorem locate_unlisted_iff (before after : List ImportLine) (st : ImportLine) (ended : Bool)
    (hdefault : n.text ≠ "default".toList)
    (hbefore : ∀ l ∈ before, l.specifier ≠ st.specifier)
    (hnames : ∀ l ∈ st :: after, l.specifier = st.specifier → n ∉ l.names) :
    locate (String.ofList (source (before ++ st :: after) ended)) st.specifier
        (String.ofList n.text) = ⟨before.length + 1, 0, String.ofList st.text⟩ ↔
      n.text ≠ "from".toList ∧ (∀ name ∈ st.names, ¬MentionsKeyword name.text) ∧
        (n.text = "import".toList ∨ before ≠ [] ∨ ∀ l ∈ after, l.specifier ≠ st.specifier) := by
  rw [List.forall_mem_cons] at hnames
  have hnone : importing st.specifier (placed 0 before) = [] := by
    rw [List.eq_nil_iff_forall_not_mem]
    exact forall_importing_iff.2 hbefore
  have hlater : ∀ offset, importing st.specifier (placed offset after) = [] ↔
      ∀ l ∈ after, l.specifier ≠ st.specifier := fun offset => by
    rw [List.eq_nil_iff_forall_not_mem]
    exact @forall_importing_iff st.specifier offset after fun _ => False
  have hfront : (closedText before).length ≠ 0 ↔ before ≠ [] := by
    rw [not_iff_not, List.length_eq_zero_iff, closedText, List.flatMap_eq_nil_iff,
      List.eq_nil_iff_forall_not_mem]
    simp
  rw [locate_eq_iff_siteOffset hdefault _ _ _ _ (Nat.zero_le _), importing_placed, hnone,
    List.nil_append, Nat.add_zero (closedText before).length,
    siteOffset_eq_iff_of_unlisted ?hback (hnames.1 rfl) ?hunlisted, start_eq_zero_iff, hfront,
    hlater]
  case hback =>
    intro p hp
    have := offset_le_of_mem_placed (List.mem_of_mem_filter hp)
    have := st.length_lead_lt
    omega
  case hunlisted => exact forall_importing_iff.2 hnames.2

/-- In a source of import lines, the site of a name and a specifier is where the name is listed first
exactly when it is not found before, as a keyword of a statement, and no keyword inside a listed name
hides it.  The start of a statement stands in for a name that no statement lists exactly when the name is
not the keyword in front of the specifier, no keyword inside a listed name moves the start, and the start
does not count as none. -/
theorem locate_eq_iff (before after : List ImportLine) (st : ImportLine) (ended : Bool)
    {n : Identifier} (hdefault : n.text ≠ "default".toList) :
    (∀ front back, st.names = front ++ n :: back → n ∉ front →
      (∀ l ∈ before, l.specifier = st.specifier → n ∉ l.names) →
        (locate (String.ofList (source (before ++ st :: after) ended)) st.specifier
            (String.ofList n.text) = ⟨before.length + 1, column front, String.ofList st.text⟩ ↔
          (∀ l ∈ before, l.specifier = st.specifier → n.text ≠ "from".toList ∧
            (n.text = "import".toList → ∃ name ∈ l.names, MentionsKeyword name.text)) ∧
          ¬MentionsKeyword n.text.tail ∧ ∀ name ∈ back, ¬MentionsKeyword name.text)) ∧
    ((∀ l ∈ before, l.specifier ≠ st.specifier) →
      (∀ l ∈ st :: after, l.specifier = st.specifier → n ∉ l.names) →
        (locate (String.ofList (source (before ++ st :: after) ended)) st.specifier
            (String.ofList n.text) = ⟨before.length + 1, 0, String.ofList st.text⟩ ↔
          n.text ≠ "from".toList ∧ (∀ name ∈ st.names, ¬MentionsKeyword name.text) ∧
            (n.text = "import".toList ∨ before ≠ [] ∨
              ∀ l ∈ after, l.specifier ≠ st.specifier))) :=
  ⟨fun _ _ => locate_listed_iff before after st ended hdefault,
    locate_unlisted_iff before after st ended hdefault⟩

/-- A name of one letter. -/
def letterName (c : Char) (h : isIdentifierStart c = true) : Identifier :=
  ⟨[c], by simp [isIdentifier, h]⟩

/-- Three lines, the last two of which import the same specifier. -/
def threeLines : List ImportLine :=
  let a := letterName 'a' (by decide)
  let b := letterName 'b' (by decide)
  let c := letterName 'c' (by decide)
  [⟨[a], "t", by decide⟩, ⟨[a], "s", by decide⟩, ⟨[b, c], "s", by decide⟩]

/-- The sites of a name that the last line lists and of one that no line lists. -/
theorem locate_threeLines :
    String.ofList (source threeLines true) =
        "import \x7b a \x7d from \"t\";\n" ++ "import \x7b a \x7d from \"s\";\n" ++
          "import \x7b b, c \x7d from \"s\";\n" ∧
      locate (String.ofList (source threeLines true)) "s" "c" =
        ⟨3, 12, "import \x7b b, c \x7d from \"s\";"⟩ ∧
      locate (String.ofList (source threeLines true)) "s" "d" =
        ⟨2, 0, "import \x7b a \x7d from \"s\";"⟩ := by
  have hnil : ¬MentionsKeyword [] := by decide
  have ha : ¬MentionsKeyword ['a'] := by decide
  have hlisted := (locate_eq_iff (threeLines.take 2) [] threeLines[2] true
    (n := letterName 'c' (by decide)) (by decide)).1 [letterName 'b' (by decide)] [] rfl
    (by simp [letterName]) (by simp [threeLines, letterName])
  have hunlisted := (locate_eq_iff (threeLines.take 1) [threeLines[2]] threeLines[1] true
    (n := letterName 'd' (by decide)) (by decide)).2 (by simp [threeLines])
    (by simp [threeLines, letterName])
  refine ⟨by rfl, hlisted.2 ⟨?_, ?_, ?_⟩, hunlisted.2 ⟨?_, ?_, ?_⟩⟩
  all_goals simp [threeLines, letterName, hnil, ha]

/-- Where two lines import a specifier and neither lists the name, the second is the site: the start of
the first one, at the start of the source, counts as none. -/
theorem locate_secondLine :
    ¬∀ (before after : List ImportLine) (st : ImportLine) (ended : Bool) (n : Identifier),
      n.text ≠ "default".toList →
        (∀ front back, st.names = front ++ n :: back → n ∉ front →
          (∀ l ∈ before, l.specifier = st.specifier → n ∉ l.names) →
            locate (String.ofList (source (before ++ st :: after) ended)) st.specifier
              (String.ofList n.text) = ⟨before.length + 1, column front, String.ofList st.text⟩) ∧
        ((∀ l ∈ before, l.specifier ≠ st.specifier) →
          (∀ l ∈ st :: after, l.specifier = st.specifier → n ∉ l.names) →
            locate (String.ofList (source (before ++ st :: after) ended)) st.specifier
              (String.ofList n.text) = ⟨before.length + 1, 0, String.ofList st.text⟩) := by
  intro h
  have hnames : ∀ l ∈ threeLines[1] :: [threeLines[2]], l.specifier = threeLines[1].specifier →
      letterName 'd' (by decide) ∉ l.names := by
    simp [threeLines, letterName]
  have hpromised := (h [] [threeLines[2]] threeLines[1] true (letterName 'd' (by decide))
    (by decide)).2 (List.forall_mem_nil _) hnames
  obtain ⟨-, -, hdecided⟩ := (locate_unlisted_iff [] _ _ true (by decide)
    (List.forall_mem_nil _) hnames).1 hpromised
  revert hdecided
  simp [threeLines, letterName]

end ImportLine
end VideoBundle
