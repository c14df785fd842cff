import Mathlib.Data.List.Infix
import VideoBundle.Module.ImportSite

/-!
# Searching for a name

The three searches that an import site is made of, each on any text: for the quotes around a
specifier, back for the keyword of the statement, and on for the name as a word of its own.  Behind
them stands the place that an offset names.

Main results:

- `statementStart?_append`, `statementStart?_le_iff`: the last keyword of a text is that of its end,
  and how far to the right it stands.
- `nameOffset?_eq_some_iff`: the name is found where it first stands as a word of its own.
- `standsAt_word`: where a name stands in a text that starts with a word.
- `atOffset_line`, `atOffset_inj`: the place on a line, and places tell offsets apart.
-/

namespace VideoBundle

open Text

/-! ## The last place of a pattern -/

namespace Text

variable {pattern cs : List Char}

/-- The last occurrence in a text is the last one whatever stands in front of the text. -/
theorem lastIndexOf?_append {i : Nat} (front : List Char) (h : lastIndexOf? pattern cs = some i) :
    lastIndexOf? pattern (front ++ cs) = some (front.length + i) := by
  induction front with
  | nil => simpa using h
  | cons c front ih =>
      simp only [List.cons_append, lastIndexOf?, ih, List.length_cons]
      congr 1
      omega

/-- There is no last place exactly if there is no place. -/
theorem lastIndexOf?_eq_none_iff (hne : pattern ≠ []) :
    lastIndexOf? pattern cs = none ↔ ¬pattern <:+: cs := by
  induction cs with
  | nil => simp [lastIndexOf?, hne]
  | cons c cs ih =>
      rw [List.infix_cons_iff, not_or, ← ih, ← List.isPrefixOf_iff_prefix, lastIndexOf?]
      cases lastIndexOf? pattern cs <;> simp

/-- An occurrence in a text whose end has none starts in front of that end. -/
theorem lt_of_lastIndexOf?_append {front : List Char} {i : Nat} (hcs : ¬pattern <:+: cs)
    (h : lastIndexOf? pattern (front ++ cs) = some i) : i < front.length := by
  by_contra hle
  rw [not_lt] at hle
  have hlead := List.isPrefixOf_iff_prefix.1 (lastIndexOf?_isPrefixOf h)
  rw [List.drop_append, List.drop_eq_nil_of_le hle, List.nil_append] at hlead
  exact hcs (hlead.isInfix.trans (List.drop_suffix _ _).isInfix)

/-- The last occurrence starts no further than at a position exactly when there is none behind it. -/
theorem lastIndexOf?_le_iff (hne : pattern ≠ []) {bound : Nat} :
    (∀ i, lastIndexOf? pattern cs = some i → i ≤ bound) ↔ ¬pattern <:+: cs.drop (bound + 1) := by
  constructor
  · intro hle hinfix
    cases hlast : lastIndexOf? pattern (cs.drop (bound + 1)) with
    | none => exact (lastIndexOf?_eq_none_iff hne).1 hlast hinfix
    | some j =>
        have hlong : bound + 1 < cs.length := by
          have hpos := List.length_pos_iff.2 hne
          have hlength := hinfix.length_le
          rw [List.length_drop] at hlength
          omega
        have hlast := lastIndexOf?_append (cs.take (bound + 1)) hlast
        rw [List.take_append_drop, List.length_take_of_le (Nat.le_of_lt hlong)] at hlast
        have := hle _ hlast
        omega
  · intro hinfix i hi
    by_contra hlt
    rw [not_le] at hlt
    have hlead := List.isPrefixOf_iff_prefix.1 (lastIndexOf?_isPrefixOf hi)
    rw [← Nat.add_sub_cancel' (Nat.succ_le_of_lt hlt), ← List.drop_drop] at hlead
    exact hinfix (hlead.isInfix.trans (List.drop_suffix _ _).isInfix)

/-- A pattern without a character occurs on one side of it. -/
theorem infix_append_cons_iff {c : Char} (hc : c ∉ pattern) (front back : List Char) :
    pattern <:+: front ++ c :: back ↔ pattern <:+: front ∨ pattern <:+: back := by
  constructor
  · intro h
    induction front with
    | nil =>
        rw [List.nil_append, List.infix_cons_iff] at h
        refine h.imp (fun hlead => ?_) id
        obtain ⟨rest, hrest⟩ := hlead
        obtain ⟨more, hmore, _⟩ :=
          exists_eq_append_of_lead hc ((List.nil_append _).trans hrest.symm)
        exact ⟨[], more, by simpa using hmore.symm⟩
    | cons d front ih =>
        rw [List.cons_append, List.infix_cons_iff] at h
        rcases h with ⟨rest, hrest⟩ | h
        · rw [← List.cons_append] at hrest
          obtain ⟨more, hmore, _⟩ := exists_eq_append_of_lead hc hrest.symm
          exact .inl ⟨[], more, hmore.symm⟩
        · exact (ih h).imp_left fun hfront => hfront.trans (List.suffix_cons d front).isInfix
  · rintro (h | h)
    · exact h.trans (List.prefix_append _ _).isInfix
    · exact h.trans ((List.suffix_cons c back).trans (List.suffix_append _ _)).isInfix

/-! ## Matches in a text -/

section Matches

variable {width? : List Char → Option Nat}

/-- Where nothing matches the search goes on one character later. -/
theorem matchOffsets_cons_of_none {c : Char} (offset : Nat) (h : width? (c :: cs) = none) :
    matchOffsets width? 0 offset (c :: cs) = matchOffsets width? 0 (offset + 1) cs := by
  rw [matchOffsets, h]

/-- A match is noted, and the search goes on behind it. -/
theorem matchOffsets_cons_of_some {c : Char} {width : Nat} (offset : Nat)
    (h : width? (c :: cs) = some width) :
    matchOffsets width? 0 offset (c :: cs) =
      offset :: matchOffsets width? (width - 1) (offset + 1) cs := by
  rw [matchOffsets, h]

/-- No match starts in a part where none can start. -/
theorem matchOffsets_append_of_none (offset : Nat) (rest : List Char)
    (h : ∀ c ∈ cs, ∀ behind, width? (c :: behind) = none) :
    matchOffsets width? 0 offset (cs ++ rest) = matchOffsets width? 0 (offset + cs.length) rest := by
  induction cs generalizing offset with
  | nil => rfl
  | cons c cs ih =>
      rw [List.forall_mem_cons] at h
      rw [List.cons_append, matchOffsets_cons_of_none _ (h.1 _), ih _ h.2, List.length_cons,
        Nat.add_assoc, Nat.add_comm 1]

/-- What a match covers is passed over. -/
theorem matchOffsets_append_of_skip (offset : Nat) (cs rest : List Char) :
    matchOffsets width? cs.length offset (cs ++ rest) =
      matchOffsets width? 0 (offset + cs.length) rest := by
  induction cs generalizing offset with
  | nil => rfl
  | cons c cs ih =>
      rw [List.cons_append, List.length_cons, matchOffsets, ih, Nat.add_assoc, Nat.add_comm 1]

end Matches

end Text

namespace ImportSite

/-! ## The keyword of a statement -/

/-- A text in which one of the keywords occurs that the search for a statement looks for. -/
def MentionsKeyword (cs : List Char) : Prop :=
  "import".toList <:+: cs ∨ "export".toList <:+: cs

instance (cs : List Char) : Decidable (MentionsKeyword cs) :=
  inferInstanceAs (Decidable (_ ∨ _))

/-- A keyword occurs on one side of a character that it does not have. -/
theorem mentionsKeyword_append_cons {c : Char} (hc : c ∉ "import".toList ++ "export".toList)
    (front back : List Char) :
    MentionsKeyword (front ++ c :: back) ↔ MentionsKeyword front ∨ MentionsKeyword back := by
  rw [List.mem_append, not_or] at hc
  rw [MentionsKeyword, infix_append_cons_iff hc.1, infix_append_cons_iff hc.2, MentionsKeyword,
    MentionsKeyword, or_or_or_comm]

/-- No statement starts exactly where no keyword is mentioned. -/
theorem statementStart?_eq_none_iff {cs : List Char} :
    statementStart? cs = none ↔ ¬MentionsKeyword cs := by
  rw [MentionsKeyword, not_or, ← lastIndexOf?_eq_none_iff (by decide),
    ← lastIndexOf?_eq_none_iff (by decide), statementStart?]
  cases lastIndexOf? "import".toList cs <;> cases lastIndexOf? "export".toList cs <;> simp

/-- The last keyword of a text is the last one whatever stands in front of the text. -/
theorem statementStart?_append {cs : List Char} {start : Nat} (front : List Char)
    (h : statementStart? cs = some start) :
    statementStart? (front ++ cs) = some (front.length + start) := by
  -- A keyword that the text does not have can only be found in front of it.
  have hbefore : ∀ {keyword : List Char} {i : Nat}, keyword ≠ [] →
      lastIndexOf? keyword cs = none → lastIndexOf? keyword (front ++ cs) = some i →
      i < front.length := fun hne hnone hi =>
    lt_of_lastIndexOf?_append ((lastIndexOf?_eq_none_iff hne).1 hnone) hi
  rw [statementStart?] at h
  split at h
  case h_1 i j hi hj =>
    cases h
    rw [statementStart?, lastIndexOf?_append front hi, lastIndexOf?_append front hj]
    simp only [Nat.add_max_add_left]
  case h_2 i hi hnone =>
    cases h
    rw [statementStart?, lastIndexOf?_append front hi]
    cases hj : lastIndexOf? "export".toList (front ++ cs) with
    | none => rfl
    | some j =>
        have := hbefore (by decide) hnone hj
        simp only [Option.some.injEq]
        omega
  case h_3 hnone =>
    rw [statementStart?, lastIndexOf?_append front h]
    cases hi : lastIndexOf? "import".toList (front ++ cs) with
    | none => rfl
    | some i =>
        have := hbefore (by decide) hnone hi
        simp only [Option.some.injEq]
        omega

/-- A statement starts no further than at a position exactly when no keyword starts behind it. -/
theorem statementStart?_le_iff {cs : List Char} {start bound : Nat}
    (h : statementStart? cs = some start) :
    start ≤ bound ↔ ¬MentionsKeyword (cs.drop (bound + 1)) := by
  rw [MentionsKeyword, not_or, ← lastIndexOf?_le_iff (by decide),
    ← lastIndexOf?_le_iff (by decide)]
  rw [statementStart?] at h
  split at h
  case h_1 i j hi hj =>
    cases h
    simp only [hi, hj, Option.some.injEq, forall_eq', Nat.max_le]
  case h_2 i hi hnone =>
    cases h
    simp only [hi, hnone, Option.some.injEq, forall_eq', reduceCtorEq, false_implies, implies_true,
      and_true]
  case h_3 hnone =>
    simp only [h, hnone, Option.some.injEq, forall_eq', reduceCtorEq, false_implies, implies_true,
      true_and]

/-- The last keyword of a text lies in it. -/
theorem statementStart?_add_le {cs : List Char} {start : Nat} (h : statementStart? cs = some start) :
    start + 6 ≤ cs.length := by
  have hfits : ∀ {keyword : List Char} {i : Nat}, keyword.length = 6 →
      lastIndexOf? keyword cs = some i → i + 6 ≤ cs.length := fun hsix hi => by
    have hle := (List.isPrefixOf_iff_prefix.1 (lastIndexOf?_isPrefixOf hi)).length_le
    rw [hsix, List.length_drop] at hle
    omega
  rw [statementStart?] at h
  split at h
  case h_1 i j hi hj =>
    cases h
    have := hfits rfl hi
    have := hfits rfl hj
    omega
  case h_2 i hi _ =>
    cases h
    exact hfits rfl hi
  case h_3 => exact hfits rfl h

/-! ## A name as a word of its own -/

/-- A name stands at a position of a text as a word of its own; `joined` tells whether the character in
front of the text can stand inside a name. -/
def StandsAt (name : List Char) : (joined : Bool) → List Char → Nat → Prop
  | joined, cs, 0 => joined = false ∧ startsWithName name cs = true
  | _, [], _ + 1 => False
  | _, c :: cs, i + 1 => StandsAt name (isNameChar c) cs i

section Names

variable {name : List Char}

/-- The name is found where it first stands. -/
theorem nameOffset?_eq_some_iff {joined : Bool} {cs : List Char} {i : Nat} :
    nameOffset? name joined cs = some i ↔
      StandsAt name joined cs i ∧ ∀ j < i, ¬StandsAt name joined cs j := by
  induction cs generalizing joined i with
  | nil =>
      cases i with
      | zero => simp [nameOffset?, StandsAt]
      | succ i => simp [nameOffset?, StandsAt]
  | cons c cs ih =>
      rw [nameOffset?]
      by_cases hhere : (!joined && startsWithName name (c :: cs)) = true
      · have hzero : StandsAt name joined (c :: cs) 0 := by simpa [StandsAt] using hhere
        rw [if_pos hhere]
        cases i with
        | zero => simp [hzero]
        | succ i =>
            refine iff_of_false (by simp) fun h => h.2 0 (Nat.succ_pos i) hzero
      · have hzero : ¬StandsAt name joined (c :: cs) 0 := by simpa [StandsAt] using hhere
        rw [if_neg hhere]
        cases i with
        | zero => simp [hzero]
        | succ i =>
            simp only [Option.map_eq_some_iff, Nat.add_right_cancel_iff, exists_eq_right, ih,
              StandsAt]
            refine and_congr_right fun _ => ⟨fun h j hj => ?_, fun h j hj => ?_⟩
            · cases j with
              | zero => exact hzero
              | succ j => exact h j (Nat.lt_of_succ_lt_succ hj)
            · exact h (j + 1) (Nat.succ_lt_succ hj)

/-- A name is not found exactly if it stands nowhere. -/
theorem nameOffset?_eq_none_iff {joined : Bool} {cs : List Char} :
    nameOffset? name joined cs = none ↔ ∀ i, ¬StandsAt name joined cs i := by
  constructor
  · intro hnone i
    induction i using Nat.strongRecOn with
    | ind i ih =>
        intro hi
        rw [nameOffset?_eq_some_iff.2 ⟨hi, ih⟩] at hnone
        cases hnone
  · intro h
    rw [Option.eq_none_iff_forall_ne_some]
    intro i hi
    exact h i (nameOffset?_eq_some_iff.1 hi).1

/-- A name stands inside the text. -/
theorem length_le_of_standsAt {joined : Bool} {cs : List Char} {i : Nat}
    (h : StandsAt name joined cs i) : i ≤ cs.length := by
  induction i generalizing joined cs with
  | zero => exact Nat.zero_le _
  | succ i ih =>
      cases cs with
      | nil => exact h.elim
      | cons c cs => exact Nat.succ_le_succ (ih h)

/-- Where a name stands in what is left of a text without its first characters. -/
theorem standsAt_drop {cs : List Char} {a : Nat} (ha : a ≤ cs.length) (joined : Bool) (i : Nat) :
    StandsAt name (((cs.take a).getLast?.map isNameChar).getD joined) (cs.drop a) i ↔
      StandsAt name joined cs (a + i) := by
  induction a generalizing cs joined with
  | zero => simp
  | succ a ih =>
      cases cs with
      | nil => cases ha
      | cons c cs =>
          rw [Nat.add_right_comm, StandsAt, ← ih (Nat.le_of_succ_le_succ ha), List.take_succ_cons,
            List.drop_succ_cons, List.getLast?_cons]
          cases (cs.take a).getLast? <;> rfl

variable (hname : ∀ c ∈ name, isNameChar c = true)

include hname in
/-- The name at the start of a text is the whole first word. -/
theorem startsWithName_word {word back : List Char} {gap : Char}
    (hword : ∀ c ∈ word, isNameChar c = true) (hgap : isNameChar gap = false) :
    startsWithName name (word ++ gap :: back) = true ↔ word = name := by
  have hgapName : gap ∉ name := fun hmem => by
    rw [hname gap hmem] at hgap
    cases hgap
  constructor
  · intro h
    rw [startsWithName] at h
    split at h
    case h_1 rest hlead =>
      obtain ⟨more, rfl, rfl⟩ :=
        exists_eq_append_of_lead hgapName (afterLead?_eq_some_iff.1 hlead)
      cases more with
      | nil => exact List.append_nil name
      | cons c more =>
          have hc : isNameChar c = true := hword c (by simp)
          simp [hc] at h
    case h_2 => cases h
  · rintro rfl
    have hlead : afterLead? word (word ++ gap :: back) = some (gap :: back) :=
      afterLead?_eq_some_iff.2 rfl
    simp [startsWithName, hlead, hgap]

/-- Inside a word no name stands. -/
theorem standsAt_joined {word back : List Char} {gap : Char} {i : Nat}
    (hword : ∀ c ∈ word, isNameChar c = true) (hgap : isNameChar gap = false) :
    StandsAt name true (word ++ gap :: back) i ↔
      ∃ j, i = word.length + 1 + j ∧ StandsAt name false back j := by
  induction word generalizing i with
  | nil =>
      cases i with
      | zero =>
          refine iff_of_false (fun h => ?_) (by rintro ⟨j, hj, -⟩; simp at hj; omega)
          cases h.1
      | succ i =>
          rw [List.nil_append, StandsAt, hgap]
          exact ⟨fun h => ⟨i, by simp; omega, h⟩, fun ⟨j, hj, h⟩ => by
            obtain rfl : i = j := by simp at hj; omega
            exact h⟩
  | cons c word ih =>
      rw [List.forall_mem_cons] at hword
      cases i with
      | zero =>
          refine iff_of_false (fun h => ?_) (by rintro ⟨j, hj, -⟩; omega)
          cases h.1
      | succ i =>
          rw [List.cons_append, StandsAt, hword.1, ih hword.2, List.length_cons]
          refine exists_congr fun j => and_congr_left fun _ => ?_
          omega

include hname in
/-- In a text that starts with a word, a name stands there if it is this word, and further on where it
stands in the rest. -/
theorem standsAt_word {word back : List Char} {gap : Char} {i : Nat}
    (hword : ∀ c ∈ word, isNameChar c = true) (hgap : isNameChar gap = false) :
    StandsAt name false (word ++ gap :: back) i ↔
      (i = 0 ∧ word = name) ∨ ∃ j, i = word.length + 1 + j ∧ StandsAt name false back j := by
  cases i with
  | zero =>
      have hbehind : ¬∃ j, 0 = word.length + 1 + j ∧ StandsAt name false back j := by
        rintro ⟨j, hj, -⟩
        omega
      simp only [StandsAt, startsWithName_word hname hword hgap, hbehind, true_and, or_false]
  | succ i =>
      rw [or_iff_right (fun h => Nat.succ_ne_zero i h.1)]
      cases word with
      | nil =>
          rw [List.nil_append, StandsAt, hgap]
          simp [Nat.add_comm 1]
      | cons c word =>
          rw [List.forall_mem_cons] at hword
          rw [List.cons_append, StandsAt, hword.1, standsAt_joined hword.2 hgap, List.length_cons]
          refine exists_congr fun j => and_congr_left fun _ => ?_
          omega

include hname in
/-- Behind a character of no name, a name stands where it stands in the rest. -/
theorem standsAt_gap (hne : name ≠ []) {back : List Char} {gap : Char} {i : Nat}
    (hgap : isNameChar gap = false) :
    StandsAt name false (gap :: back) i ↔ ∃ j, i = 1 + j ∧ StandsAt name false back j := by
  have hword : StandsAt name false ([] ++ gap :: back) i ↔ _ :=
    standsAt_word hname (List.forall_mem_nil _) hgap
  rw [List.nil_append, or_iff_right fun h => hne h.2.symm] at hword
  simpa using hword

theorem not_standsAt_nil (hne : name ≠ []) (i : Nat) : ¬StandsAt name false [] i := by
  obtain ⟨c, cs, rfl⟩ := List.exists_cons_of_ne_nil hne
  cases i with
  | zero => simp [StandsAt, startsWithName, afterLead?]
  | succ i => exact id

end Names

/-! ## Parts of a source -/

/-- A text behind which a line starts. -/
def EndsLine (front : List Char) : Prop :=
  ∀ c ∈ front.getLast?, c = '\n'

/-- A text in front of which a line ends. -/
def StartsBehindLine (back : List Char) : Prop :=
  ∀ c ∈ back.head?, c = '\n'

variable {front : List Char}

/-- A name is searched in a statement at the start of a line as if the line stood alone. -/
theorem nameInStatement?_line (hfront : EndsLine front) (name : List Char) {lead : List Char}
    (back : List Char) {start : Nat} (hstart : start ≤ lead.length) :
    nameInStatement? (front ++ lead ++ back) name (front.length + start)
        (front.length + lead.length) =
      (nameInStatement? lead name start lead.length).map (front.length + ·) := by
  have htake : (front ++ lead ++ back).take (front.length + start) = front ++ lead.take start := by
    rw [List.append_assoc, List.take_length_add_append, List.take_append_of_le_length hstart]
  have hjoined : ((front ++ lead.take start).getLast?.map isNameChar).getD false =
      ((lead.take start).getLast?.map isNameChar).getD false := by
    rw [List.getLast?_append]
    cases (lead.take start).getLast? with
    | some c => rfl
    | none =>
        cases hlast : front.getLast? with
        | none => rfl
        | some c =>
            obtain rfl := hfront c hlast
            decide +kernel
  have hregion : ((front ++ lead ++ back).take (front.length + lead.length)).drop
      (front.length + start) = lead.drop start := by
    rw [← List.length_append, List.take_left, List.drop_length_add_append]
  rw [nameInStatement?, nameInStatement?, htake, hjoined, hregion, List.take_length,
    Option.map_map]
  congr 1
  funext i
  exact Nat.add_assoc _ _ _

/-- The first place from a position on where a name stands in a statement. -/
theorem nameInStatement?_eq_some_iff {name lead : List Char} {start i : Nat}
    (hstart : start ≤ lead.length) :
    nameInStatement? lead name start lead.length = some i ↔
      start ≤ i ∧ StandsAt name false lead i ∧
        ∀ j, start ≤ j → j < i → ¬StandsAt name false lead j := by
  simp only [nameInStatement?, List.take_length, Option.map_eq_some_iff, nameOffset?_eq_some_iff,
    standsAt_drop hstart]
  constructor
  · rintro ⟨i, ⟨hstands, hfirst⟩, rfl⟩
    refine ⟨Nat.le_add_right start i, hstands, fun j hj hlt => ?_⟩
    obtain ⟨j, rfl⟩ := Nat.exists_eq_add_of_le hj
    exact hfirst j (Nat.lt_of_add_lt_add_left hlt)
  · rintro ⟨hi, hstands, hfirst⟩
    obtain ⟨i, rfl⟩ := Nat.exists_eq_add_of_le hi
    exact ⟨i, ⟨hstands, fun j hj =>
      hfirst _ (Nat.le_add_right start j) (Nat.add_lt_add_left hj start)⟩, rfl⟩

/-- A name is not found in a statement exactly if it stands nowhere behind the start. -/
theorem nameInStatement?_eq_none_iff {name lead : List Char} {start : Nat}
    (hstart : start ≤ lead.length) :
    nameInStatement? lead name start lead.length = none ↔
      ∀ i, start ≤ i → ¬StandsAt name false lead i := by
  simp only [nameInStatement?, List.take_length, Option.map_eq_none_iff, nameOffset?_eq_none_iff,
    standsAt_drop hstart]
  constructor
  · intro h i hi
    obtain ⟨i, rfl⟩ := Nat.exists_eq_add_of_le hi
    exact h i
  · exact fun h i => h _ (Nat.le_add_right start i)

/-- A part without line feeds is passed on the way to the end of its line. -/
theorem takeWhile_line {part back : List Char} (hpart : '\n' ∉ part)
    (hback : StartsBehindLine back) : (part ++ back).takeWhile (· != '\n') = part := by
  have hplain : ∀ c ∈ part, (c != '\n') = true := fun c hc => by
    rw [bne_iff_ne]
    rintro rfl
    exact hpart hc
  rw [List.takeWhile_append_of_pos hplain]
  cases back with
  | nil => simp
  | cons c back =>
      obtain rfl := hback c rfl
      simp

/-- The place of a column on a line. -/
theorem atOffset_line (hfront : EndsLine front) {line back : List Char}
    (hback : StartsBehindLine back) (hline : '\n' ∉ line) {column : Nat}
    (hcolumn : column ≤ line.length) :
    atOffset (front ++ line ++ back) (front.length + column) =
      ⟨front.count '\n' + 1, column, String.ofList line⟩ := by
  have htake : (front ++ line ++ back).take (front.length + column) = front ++ line.take column := by
    rw [List.append_assoc, List.take_length_add_append, List.take_append_of_le_length hcolumn]
  have hdrop : (front ++ line ++ back).drop (front.length + column) = line.drop column ++ back := by
    rw [List.append_assoc, List.drop_length_add_append, List.drop_append_of_le_length hcolumn]
  have hleft : '\n' ∉ line.take column := fun h => hline (List.mem_of_mem_take h)
  have hright : '\n' ∉ line.drop column := fun h => hline (List.mem_of_mem_drop h)
  have hbefore : (front ++ line.take column).reverse.takeWhile (· != '\n') =
      (line.take column).reverse := by
    rw [List.reverse_append]
    refine takeWhile_line (by simpa using hleft) fun c hc => ?_
    exact hfront c (by rwa [← List.head?_reverse])
  rw [atOffset, htake, hdrop, hbefore, takeWhile_line hright hback]
  simp [List.count_append, List.count_eq_zero.2 hleft, hcolumn]

/-- An offset further on is on a later line, or further right on the same one. -/
theorem atOffset_ne_of_lt {source : List Char} {a b : Nat} (hab : a < b)
    (hb : b ≤ source.length) : atOffset source a ≠ atOffset source b := by
  intro h
  obtain ⟨hline, hcolumn, -⟩ := ImportSite.mk.inj h
  have htake : source.take b = source.take a ++ (source.drop a).take (b - a) := by
    rw [← List.take_add, Nat.add_sub_cancel' (Nat.le_of_lt hab)]
  rw [htake, List.count_append] at hline
  have hbetween : '\n' ∉ ((source.drop a).take (b - a)).reverse := by
    rw [List.mem_reverse, ← List.count_eq_zero]
    omega
  have hplain : ∀ c ∈ ((source.drop a).take (b - a)).reverse, (c != '\n') = true := fun c hc => by
    rw [bne_iff_ne]
    rintro rfl
    exact hbetween hc
  rw [htake, List.reverse_append, List.takeWhile_append_of_pos hplain, List.length_append,
    List.length_reverse, List.length_take, List.length_drop] at hcolumn
  omega

/-- Different offsets of a source have different places. -/
theorem atOffset_inj {source : List Char} {a b : Nat} (ha : a ≤ source.length)
    (hb : b ≤ source.length) : atOffset source a = atOffset source b ↔ a = b := by
  constructor
  · intro h
    rcases Nat.lt_trichotomy a b with hlt | heq | hlt
    · exact absurd h (atOffset_ne_of_lt hlt hb)
    · exact heq
    · exact absurd h.symm (atOffset_ne_of_lt hlt ha)
  · exact congrArg _

/-! ## Quotes -/

/-- Nothing is quoted where no quote stands. -/
theorem quotedWidth?_of_not_quote {specifier behind : List Char} {c : Char} (hdouble : c ≠ '"')
    (hsingle : c ≠ '\'') : quotedWidth? specifier (c :: behind) = none := by
  simp [quotedWidth?, hdouble, hsingle]

theorem quotedWidth?_newline (specifier back : List Char) :
    quotedWidth? specifier ('\n' :: back) = none :=
  quotedWidth?_of_not_quote (by decide) (by decide)

/-- A specifier without quotes is found in quotes where just this specifier is quoted. -/
theorem quotedWidth?_opening {s t : List Char} (hs : '"' ∉ s) (ht : '"' ∉ t) (back : List Char) :
    quotedWidth? s ('"' :: (t ++ '"' :: back)) = if t = s then some (s.length + 2) else none := by
  have hlead : (s ++ ['"']).isPrefixOf (t ++ '"' :: back) = true ↔ t = s := by
    rw [List.isPrefixOf_iff_prefix]
    constructor
    · rintro ⟨rest, hrest⟩
      rw [List.append_assoc] at hrest
      obtain ⟨more, rfl, hmore⟩ := exists_eq_append_of_lead hs hrest.symm
      cases more with
      | nil => exact List.append_nil s
      | cons c more =>
          obtain ⟨rfl, -⟩ := List.cons.inj hmore
          simp at ht
    · rintro rfl
      exact ⟨back, by simp⟩
  simp only [quotedWidth?, hlead, true_or, true_and]

/-- The quote at the end of a statement starts no quoted specifier. -/
theorem quotedWidth?_closing {s back : List Char} (hquote : '"' ∉ s) (hline : '\n' ∉ s)
    (hback : StartsBehindLine back) : quotedWidth? s ('"' :: ';' :: back) = none := by
  have hlead : ¬(s ++ ['"']).isPrefixOf (';' :: back) = true := by
    rw [List.isPrefixOf_iff_prefix]
    rintro ⟨rest, hrest⟩
    rcases s with _ | ⟨c, _ | ⟨d, s⟩⟩
    · simp at hrest
    · obtain ⟨-, rfl⟩ := List.cons.inj hrest
      exact absurd (hback '"' rfl) (by decide)
    · obtain ⟨-, rfl⟩ := List.cons.inj hrest
      obtain rfl := hback d rfl
      simp at hline
  simp only [quotedWidth?, hlead, and_false, Bool.false_eq_true, if_false]

end ImportSite
end VideoBundle
