import VideoBundle.Proofs.Module.ImportLines

/-!
# Sources of import lines

Sources whose lines are imports of lists of names.  Every line has an offset at which it starts, and the
quoted specifiers that are looked at in a source are those of the lines that import the specifier.

Main results:

- `source_append_cons`: a source, seen from one of its lines.
- `matchOffsets_source`: the quoted specifiers that are looked at are those of the lines.
- `exists_of_mem_placed`: a placed line starts behind the lines in front of it.
-/

namespace VideoBundle

open Text ImportSite
open Esm (Identifier)

namespace ImportLine

/-! ## Sources -/

/-- The text of some lines, each ended by a line feed. -/
def closedText (lines : List ImportLine) : List Char :=
  lines.flatMap fun l => l.text ++ ['\n']

/-- What stands behind a line: the lines after it, and perhaps a last line feed. -/
def behindLine (after : List ImportLine) (ended : Bool) : List Char :=
  after.flatMap (fun l => '\n' :: l.text) ++ if ended then ['\n'] else []

/-- A source of import lines; `ended` tells whether a line feed ends the last one. -/
def source (lines : List ImportLine) (ended : Bool) : List Char :=
  ['\n'].intercalate (lines.map text) ++ if ended then ['\n'] else []

/-- A source, seen from one of its lines. -/
theorem source_append_cons (before after : List ImportLine) (l : ImportLine) (ended : Bool) :
    source (before ++ l :: after) ended = closedText before ++ l.text ++ behindLine after ended := by
  rw [source, List.map_append, List.map_cons, intercalate_append_cons, List.flatMap_map,
    List.flatMap_map, closedText, behindLine]
  simp only [List.append_assoc, List.singleton_append]

/-- No specifier holds the quote that closes it. -/
theorem quote_not_mem_specifier (l : ImportLine) : '"' ∉ l.specifier.toList :=
  fun h => (l.plain _ h).1 rfl

theorem newline_not_mem_specifier (l : ImportLine) : '\n' ∉ l.specifier.toList :=
  fun h => (l.plain _ h).2.2.2 rfl

/-- A lead holds no character that is neither in names nor in the parts around them. -/
theorem not_mem_lead {c : Char} (hname : isNameChar c = false)
    (hparts : c ∉ opening ++ [',', ' '] ++ closing) (l : ImportLine) : c ∉ l.lead := by
  have hword : ∀ {word : List Char}, (∀ d ∈ word, isNameChar d = true) → c ∉ word :=
    fun hchars hc => by
      rw [hchars c hc] at hname
      cases hname
  rw [List.mem_append, List.mem_append, not_or, not_or] at hparts
  rw [lead_eq, behindWord, List.mem_append, List.mem_append, List.mem_append, List.mem_flatMap]
  rintro (h | h | ⟨name, -, h⟩ | h)
  · exact hparts.1.1 h
  · exact hword l.isNameChar_of_mem_firstWord h
  · rcases List.mem_append.1 h with h | h
    · exact hparts.1.2 h
    · exact hword (isNameChar_of_mem name) h
  · exact hparts.2 h

/-- An import stands on one line. -/
theorem newline_not_mem_text (l : ImportLine) : '\n' ∉ l.text := by
  have hlead := not_mem_lead (c := '\n') (by decide +kernel) (by decide) l
  simp [text, hlead, l.newline_not_mem_specifier]

/-- The quote of the specifier stands behind the lead. -/
theorem length_lead_lt (l : ImportLine) : l.lead.length < l.text.length := by
  simp [text]

/-! ## The quotes of a source -/

/-- In a line, the specifier in quotes is looked at if it is the one that is searched. -/
theorem matchOffsets_text (l s : ImportLine) (offset : Nat) {back : List Char}
    (hback : StartsBehindLine back) :
    matchOffsets (quotedWidth? s.specifier.toList) 0 offset (l.text ++ back) =
      (if l.specifier = s.specifier then [offset + l.lead.length] else []) ++
        matchOffsets (quotedWidth? s.specifier.toList) 0 (offset + l.text.length) back := by
  have hlead : ∀ c ∈ l.lead, ∀ behind, quotedWidth? s.specifier.toList (c :: behind) = none := by
    intro c hc behind
    refine quotedWidth?_of_not_quote ?_ ?_
    · rintro rfl
      exact not_mem_lead (by decide +kernel) (by decide) l hc
    · rintro rfl
      exact not_mem_lead (by decide +kernel) (by decide) l hc
  have hspecifier : ∀ c ∈ l.specifier.toList, ∀ behind,
      quotedWidth? s.specifier.toList (c :: behind) = none := fun c hc _ =>
    quotedWidth?_of_not_quote (l.plain c hc).1 (l.plain c hc).2.1
  have hsemicolon : quotedWidth? s.specifier.toList (';' :: back) = none :=
    quotedWidth?_of_not_quote (by decide) (by decide)
  have htext : l.text ++ back =
      l.lead ++ '"' :: (l.specifier.toList ++ '"' :: ';' :: back) := by
    simp [text]
  have hopening := quotedWidth?_opening s.quote_not_mem_specifier l.quote_not_mem_specifier
    (';' :: back)
  rw [htext, matchOffsets_append_of_none _ _ hlead]
  by_cases hsame : l.specifier = s.specifier
  · -- The match covers the specifier and the quote behind it.
    have hbody : l.specifier.toList ++ '"' :: ';' :: back =
        (l.specifier.toList ++ ['"']) ++ ';' :: back := by
      simp
    have hwidth : s.specifier.toList.length + 2 - 1 = (l.specifier.toList ++ ['"']).length := by
      simp [hsame]
    have hoffset : offset + l.lead.length + 1 + (l.specifier.toList ++ ['"']).length + 1 =
        offset + l.text.length := by
      simp [text]
      omega
    rw [if_pos (congrArg _ hsame)] at hopening
    rw [matchOffsets_cons_of_some _ hopening, hwidth, hbody, matchOffsets_append_of_skip,
      matchOffsets_cons_of_none _ hsemicolon, hoffset, if_pos hsame, List.singleton_append]
  · have hoffset : offset + l.lead.length + 1 + l.specifier.toList.length + 1 + 1 =
        offset + l.text.length := by
      simp [text]
      omega
    rw [if_neg fun h => hsame (String.toList_injective h)] at hopening
    rw [matchOffsets_cons_of_none _ hopening, matchOffsets_append_of_none _ _ hspecifier,
      matchOffsets_cons_of_none _ (quotedWidth?_closing s.quote_not_mem_specifier
        s.newline_not_mem_specifier hback),
      matchOffsets_cons_of_none _ hsemicolon, hoffset, if_neg hsame, List.nil_append]

/-! ## Lines with their offsets -/

/-- A line of a source and the offset at which it starts. -/
structure Placed where
  offset : Nat
  line : ImportLine

namespace Placed

/-- The offset of the quote in front of the specifier. -/
def quote (p : Placed) : Nat := p.offset + p.line.lead.length

/-- The offset from which a name is searched. -/
def start (p : Placed) : Nat := p.offset + p.line.start

/-- The offset at which a name is found. -/
def found? (n : Identifier) (p : Placed) : Option Nat :=
  (p.line.find? n).map (p.offset + ·)

end Placed

/-- Lines, each behind the line feed of the one before. -/
def placed : Nat → List ImportLine → List Placed
  | _, [] => []
  | offset, l :: lines => ⟨offset, l⟩ :: placed (offset + l.text.length + 1) lines

/-- The lines that import a specifier. -/
def importing (specifier : String) (ps : List Placed) : List Placed :=
  ps.filter fun p => p.line.specifier = specifier

/-- What follows a line starts with its line feed, or nothing follows. -/
theorem startsBehindLine_behindLine (after : List ImportLine) (ended : Bool) :
    StartsBehindLine (behindLine after ended) := by
  intro c hc
  cases after with
  | nil => cases ended <;> simp_all [behindLine, eq_comm]
  | cons l after => simpa [behindLine, eq_comm] using hc

/-- A line counts exactly if it imports from that specifier. -/
theorem quotes_importing_cons (s l : ImportLine) (offset : Nat) (ps : List Placed) :
    (importing s.specifier (⟨offset, l⟩ :: ps)).map Placed.quote =
      (if l.specifier = s.specifier then [offset + l.lead.length] else []) ++
        (importing s.specifier ps).map Placed.quote := by
  by_cases hsame : l.specifier = s.specifier <;> simp [importing, hsame, Placed.quote]

/-- The quotes that are found behind a line are those of the later imports from the specifier. -/
theorem matchOffsets_behindLine (s : ImportLine) (offset : Nat) (after : List ImportLine)
    (ended : Bool) :
    matchOffsets (quotedWidth? s.specifier.toList) 0 offset (behindLine after ended) =
      (importing s.specifier (placed (offset + 1) after)).map Placed.quote := by
  induction after generalizing offset with
  | nil =>
      cases ended with
      | false => rfl
      | true => exact matchOffsets_cons_of_none _ (quotedWidth?_newline _ [])
  | cons l after ih =>
      have hbehind : behindLine (l :: after) ended =
          '\n' :: (l.text ++ behindLine after ended) := by
        simp [behindLine]
      rw [hbehind, matchOffsets_cons_of_none _ (quotedWidth?_newline _ _),
        matchOffsets_text l s _ (startsBehindLine_behindLine after ended), ih, placed,
        quotes_importing_cons]

/-- The quoted specifiers that are looked at in a source are those of its lines. -/
theorem matchOffsets_source (s : ImportLine) (lines : List ImportLine) (ended : Bool) :
    matchOffsets (quotedWidth? s.specifier.toList) 0 0 (source lines ended) =
      (importing s.specifier (placed 0 lines)).map Placed.quote := by
  cases lines with
  | nil =>
      cases ended with
      | false => rfl
      | true => exact matchOffsets_cons_of_none _ (quotedWidth?_newline _ [])
  | cons l after =>
      have hsource := source_append_cons [] after l ended
      rw [List.nil_append] at hsource
      rw [hsource, closedText, List.flatMap_nil, List.nil_append,
        matchOffsets_text l s _ (startsBehindLine_behindLine after ended),
        matchOffsets_behindLine, placed, quotes_importing_cons]

/-- The lines behind others are placed behind their text. -/
theorem placed_append (offset : Nat) (before after : List ImportLine) :
    placed offset (before ++ after) =
      placed offset before ++ placed (offset + (closedText before).length) after := by
  induction before generalizing offset with
  | nil => simp [placed, closedText]
  | cons l before ih =>
      rw [List.cons_append, placed, ih, placed, List.cons_append]
      simp only [closedText, List.flatMap_cons, List.length_append, List.length_singleton,
        Nat.add_assoc]

/-- A placed line starts behind the lines in front of it. -/
theorem exists_of_mem_placed {offset : Nat} {lines : List ImportLine} {p : Placed}
    (h : p ∈ placed offset lines) :
    ∃ before after, lines = before ++ p.line :: after ∧
      p.offset = offset + (closedText before).length := by
  induction lines generalizing offset with
  | nil => cases h
  | cons l lines ih =>
      rcases List.mem_cons.1 h with rfl | h
      · exact ⟨[], lines, rfl, rfl⟩
      · obtain ⟨before, after, rfl, hoffset⟩ := ih h
        refine ⟨l :: before, after, rfl, ?_⟩
        rw [hoffset]
        simp only [closedText, List.flatMap_cons, List.length_append, List.length_singleton]
        omega

/-- No line is placed before the place where placing begins. -/
theorem offset_le_of_mem_placed {offset : Nat} {lines : List ImportLine} {p : Placed}
    (h : p ∈ placed offset lines) : offset ≤ p.offset := by
  obtain ⟨_, _, _, hoffset⟩ := exists_of_mem_placed h
  omega

/-- A placed line ends in front of what follows the lines. -/
theorem quote_lt_of_mem_placed {offset : Nat} {lines : List ImportLine} {p : Placed}
    (h : p ∈ placed offset lines) : p.quote < offset + (closedText lines).length := by
  obtain ⟨before, after, rfl, hoffset⟩ := exists_of_mem_placed h
  have := p.line.length_lead_lt
  simp only [Placed.quote, hoffset, closedText, List.flatMap_append, List.flatMap_cons,
    List.length_append]
  omega

/-- The text of closed lines is empty or ends with a line feed. -/
theorem endsLine_closedText (lines : List ImportLine) : EndsLine (closedText lines) := by
  intro c hc
  rcases List.eq_nil_or_concat lines with rfl | ⟨lines, l, rfl⟩
  · cases hc
  · simpa [closedText, eq_comm] using hc

/-- There is one line feed for each closed line. -/
theorem count_closedText (lines : List ImportLine) :
    (closedText lines).count '\n' = lines.length := by
  induction lines with
  | nil => rfl
  | cons l lines ih =>
      have hline := List.count_eq_zero.2 l.newline_not_mem_text
      rw [closedText] at ih ⊢
      rw [List.flatMap_cons, List.count_append, List.count_append, hline, ih, List.length_cons]
      exact Nat.add_comm 1 _

/-- What holds of the lines that import a specifier, placed or not. -/
theorem forall_importing_iff {specifier : String} {offset : Nat} {lines : List ImportLine}
    {P : ImportLine → Prop} :
    (∀ p ∈ importing specifier (placed offset lines), P p.line) ↔
      ∀ l ∈ lines, l.specifier = specifier → P l := by
  induction lines generalizing offset with
  | nil => simp [placed, importing]
  | cons l lines ih =>
      rw [List.forall_mem_cons, ← @ih (offset + l.text.length + 1), placed]
      by_cases hsame : l.specifier = specifier <;> simp [importing, hsame]

end ImportLine
end VideoBundle
