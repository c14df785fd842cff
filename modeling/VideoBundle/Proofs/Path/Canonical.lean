import VideoBundle.SourceTable

/-!
# Canonical paths

The normal form of a path from the root is written from the segments that a reader of the path keeps:
none is empty, none is made of dots that have a meaning, and none holds a separator.  Such segments are
read back as they were written, so that a canonical path is its own canonical spelling.

Main results:

- `normalForm_fromRoot`: a normal form from the root is made of the segments that are left.
- `segments_render`: plain segments without separators are read back.
- `canonical?_of_canonical?`: a canonical path is its own canonical spelling.
- `canonical_spelling`: which paths have a canonical spelling, which it is, and what it looks like.
-/

namespace VideoBundle

namespace Path

/-! ## Base names -/

/-- A path without a slash is its own base name. -/
theorem baseName_of_not_mem {name : List Char} (h : '/' ∉ name) : baseName name = name := by
  have hname : ∀ c ∈ name.reverse, (c != '/') = true := by
    intro c hc
    simpa using fun heq : c = '/' => h (heq ▸ List.mem_reverse.1 hc)
  rw [baseName, ← List.append_nil name.reverse, List.takeWhile_append_of_pos hname]
  simp

/-- The base name of a path is what stands behind the last slash. -/
theorem baseName_append_slash (above : List Char) {name : List Char} (h : '/' ∉ name) :
    baseName (above ++ '/' :: name) = name := by
  have hname : ∀ c ∈ name.reverse, (c != '/') = true := by
    intro c hc
    simpa using fun heq : c = '/' => h (heq ▸ List.mem_reverse.1 hc)
  rw [baseName, List.reverse_append, List.reverse_cons, List.append_assoc,
    List.takeWhile_append_of_pos hname]
  simp

/-! ## Plain segments -/

/-- A segment that leads one step further, and neither nowhere nor back. -/
structure Plain (s : Segment) : Prop where
  ne_nil : s ≠ []
  ne_dot : s ≠ ['.']
  ne_dots : s ≠ ['.', '.']

/-- A plain segment is put on the stack. -/
theorem pushSegment_of_plain {s : Segment} (h : Plain s) (kept : List Segment) :
    pushSegment kept s = s :: kept := by
  have hstep : ¬(s = [] ∨ s = ['.']) := not_or.2 ⟨h.ne_nil, h.ne_dot⟩
  rw [pushSegment, if_neg hstep, if_neg h.ne_dots]

theorem foldl_pushSegment_of_plain {ss : List Segment} (h : ∀ s ∈ ss, Plain s)
    (kept : List Segment) : ss.foldl pushSegment kept = ss.reverse ++ kept := by
  induction ss generalizing kept with
  | nil => rfl
  | cons s ss ih =>
      have hss : ∀ other ∈ ss, Plain other := fun other hother =>
        h other (List.mem_cons_of_mem _ hother)
      rw [List.foldl_cons, pushSegment_of_plain (h s List.mem_cons_self), ih hss]
      simp

/-- Only plain segments are kept on the stack. -/
theorem plain_of_mem_pushSegment {kept : List Segment} {segment s : Segment}
    (hkept : ∀ s ∈ kept, Plain s) (h : s ∈ pushSegment kept segment) : Plain s := by
  unfold pushSegment at h
  split at h
  · exact hkept s h
  · rename_i hstep
    split at h
    · exact hkept s (List.mem_of_mem_tail h)
    · rename_i hdots
      rcases List.mem_cons.1 h with rfl | h
      · exact ⟨fun hnil => hstep (.inl hnil), fun hdot => hstep (.inr hdot), hdots⟩
      · exact hkept s h

/-- The segments of a normal form are plain. -/
theorem plain_of_mem_foldl_pushSegment {pieces kept : List Segment} {s : Segment}
    (hkept : ∀ s ∈ kept, Plain s) (h : s ∈ pieces.foldl pushSegment kept) : Plain s := by
  induction pieces generalizing kept with
  | nil => exact hkept s h
  | cons piece pieces ih => exact ih (fun _ hs => plain_of_mem_pushSegment hkept hs) h

/-- A segment that is left of a path is plain. -/
theorem plain_of_mem_segments {path : List Char} {s : Segment} (h : s ∈ segments path) : Plain s :=
  plain_of_mem_foldl_pushSegment (by simp) (List.mem_reverse.1 h)

/-! ## Normal forms from the root -/

/-- An empty segment changes nothing. -/
theorem pushSegment_nil (kept : List Segment) : pushSegment kept [] = kept :=
  if_pos (.inl rfl)

/-- Slashes in front of a path change nothing. -/
theorem foldl_pushSegment_dropWhile (path : List Char) (kept : List Segment) :
    (Text.splitWhere (· = '/') (path.dropWhile (· = '/'))).foldl pushSegment kept =
      (Text.splitWhere (· = '/') path).foldl pushSegment kept := by
  induction path with
  | nil => rfl
  | cons c path ih =>
      by_cases hc : c = '/'
      · have hsplit : Text.splitWhere (· = '/') (c :: path) =
            [] :: Text.splitWhere (· = '/') path := by
          simp [Text.splitWhere, hc]
        rw [List.dropWhile_cons_of_pos (by simpa using hc), ih, hsplit, List.foldl_cons,
          pushSegment_nil]
      · rw [List.dropWhile_cons_of_neg (by simpa using hc)]

/-- From the root, two dots are never kept, so that they always take back what is in front of them. -/
theorem pushComponent_rooted {kept : List Segment} (hkept : ∀ s ∈ kept, Plain s)
    (component : Segment) : pushComponent true kept component = pushSegment kept component := by
  have hhead : kept.head? ≠ some ['.', '.'] := fun h =>
    (hkept _ (List.mem_of_head? h)).ne_dots rfl
  by_cases hdots : component = ['.', '.']
  · simp [pushComponent, pushSegment, hdots, hhead]
  · simp [pushComponent, pushSegment, hdots]

/-- Below the root the two stacks go the same way. -/
theorem foldl_pushComponent_rooted (pieces : List Segment) {kept : List Segment}
    (hkept : ∀ s ∈ kept, Plain s) :
    pieces.foldl (pushComponent true) kept = pieces.foldl pushSegment kept := by
  induction pieces generalizing kept with
  | nil => rfl
  | cons piece pieces ih =>
      rw [List.foldl_cons, List.foldl_cons, pushComponent_rooted hkept]
      exact ih fun s hs => plain_of_mem_pushSegment hkept hs

/-- A path from the root starts with one slash. -/
theorem rootSlashes_fromRoot (path : List Char) : rootSlashes (fromRoot path) = 1 := by
  rw [fromRoot]
  generalize (path.map fun c => if c = '\\' then '/' else c) = unified
  have hhead := List.head?_dropWhile_not (fun c : Char => decide (c = '/')) unified
  cases hrest : unified.dropWhile (· = '/') with
  | nil => rfl
  | cons c rest =>
      rw [hrest] at hhead
      have hc : c ≠ '/' := by simpa using hhead
      unfold rootSlashes
      split <;> simp_all

/-- The components of a path from the root leave the segments of the path. -/
theorem foldl_pushComponent_fromRoot (path : List Char) :
    ((Text.splitWhere (· = '/') (fromRoot path)).foldl (pushComponent true) []).reverse =
      segments path := by
  have hsplit (rest : List Char) : Text.splitWhere (· = '/') ('/' :: rest) =
      [] :: Text.splitWhere (· = '/') rest := by
    simp [Text.splitWhere]
  have hunified : Text.splitWhere (· = '/') (path.map fun c => if c = '\\' then '/' else c) =
      Text.splitWhere isSeparator path := by
    refine Text.splitWhere_map (fun c => ?_) (fun c hc => ?_) path
    · by_cases hc : c = '\\' <;> simp [isSeparator, hc]
    · exact if_neg fun heq => by simp [isSeparator, heq] at hc
  rw [foldl_pushComponent_rooted _ (by simp), fromRoot, hsplit, List.foldl_cons, pushSegment_nil,
    foldl_pushSegment_dropWhile, hunified, segments]

/-- The normal form of a path from the root has the segments that are left, with slashes between
them. -/
theorem normalForm_fromRoot (path : List Char) :
    normalForm (fromRoot path) = '/' :: ['/'].intercalate (segments path) := by
  simp only [normalForm, rootSlashes_fromRoot]
  rw [show ((1 : Nat) != 0) = true from rfl, foldl_pushComponent_fromRoot]
  rfl

/-- A slash in front of segments that slashes separate is a slash in front of each. -/
theorem cons_intercalate {ss : List Segment} (h : ss ≠ []) :
    '/' :: ['/'].intercalate ss = render ss := by
  induction ss with
  | nil => exact absurd rfl h
  | cons s ss ih =>
      cases ss with
      | nil => simp [render]
      | cons next ss =>
          rw [List.intercalate_cons_cons, List.append_assoc, List.singleton_append,
            ih (List.cons_ne_nil _ _)]
          rfl

/-- The canonical spelling of a path has a slash in front of each segment that is left. -/
theorem canonical?_eq (path : String) :
    canonical? path =
      if segments path.toList = [] then none
      else some (String.ofList (render (segments path.toList))) := by
  have hplain : ∀ s ∈ segments path.toList, Plain s := fun _ => plain_of_mem_segments
  rw [canonical?, normalForm_fromRoot]
  generalize segments path.toList = ss at hplain ⊢
  cases ss with
  | nil => rfl
  | cons s ss =>
      rw [cons_intercalate (List.cons_ne_nil s ss), if_neg (List.cons_ne_nil s ss)]
      obtain ⟨c, rest, rfl⟩ := List.exists_cons_of_ne_nil (hplain s List.mem_cons_self).ne_nil
      exact if_pos (by simp [render])

/-! ## Reading what was written -/

/-- A path that is written from segments is split into them, behind what stands in front of the first
slash. -/
theorem splitWhere_append_render {cut : Char → Bool} (hslash : cut '/' = true) {ss : List Segment}
    (h : ∀ s ∈ ss, ∀ c ∈ s, cut c = false) {lead : List Char} (hlead : ∀ c ∈ lead, cut c = false) :
    Text.splitWhere cut (lead ++ render ss) = lead :: ss := by
  induction ss generalizing lead with
  | nil =>
      rw [render, List.flatMap_nil, List.append_nil]
      exact Text.splitWhere_of_uncut hlead
  | cons s ss ih =>
      have hrest := ih (fun other hother => h other (List.mem_cons_of_mem _ hother))
        (h s List.mem_cons_self)
      rw [render, List.flatMap_cons, List.cons_append, Text.splitWhere_append_cons hlead hslash]
      exact congrArg (lead :: ·) hrest

/-- Plain segments without separators are read back. -/
theorem segments_render {ss : List Segment} (hplain : ∀ s ∈ ss, Plain s)
    (h : ∀ s ∈ ss, ∀ c ∈ s, isSeparator c = false) : segments (render ss) = ss := by
  have hsplit : Text.splitWhere isSeparator (render ss) = [] :: ss :=
    splitWhere_append_render (by decide) h (List.forall_mem_nil _)
  rw [segments, hsplit, List.foldl_cons, pushSegment_nil, foldl_pushSegment_of_plain hplain]
  simp

/-- Plain segments without separators are the canonical spelling of themselves. -/
theorem canonical?_render {ss : List Segment} (hne : ss ≠ []) (hplain : ∀ s ∈ ss, Plain s)
    (h : ∀ s ∈ ss, ∀ c ∈ s, isSeparator c = false) :
    canonical? (String.ofList (render ss)) = some (String.ofList (render ss)) := by
  rw [canonical?_eq, String.toList_ofList, segments_render hplain h, if_neg hne]

/-- A canonical path is its own canonical spelling. -/
theorem canonical?_of_canonical? {path canonicalPath : String}
    (h : canonical? path = some canonicalPath) : canonical? canonicalPath = some canonicalPath := by
  rw [canonical?_eq] at h
  obtain ⟨hne, hpath⟩ := Option.ite_none_left_eq_some.1 h
  rw [← Option.some.inj hpath]
  exact canonical?_render hne (fun _ hs => plain_of_mem_segments hs)
    fun _ hs => separator_not_mem_segments hs

/-! ## What canonical spellings look like -/

/-- A spelling from the root, with one slash in front of each segment and no segment that says
nothing or leads back. -/
structure IsCanonical (spelling : String) : Prop where
  /-- It starts with a slash, and not with two. -/
  rooted : ∃ rest, spelling.toList = '/' :: rest ∧ rest.head? ≠ some '/'
  no_backslash : '\\' ∉ spelling.toList
  /-- What stands behind the first slash and between slashes are plain segments. -/
  plain : ∀ s ∈ (Text.splitWhere (· = '/') spelling.toList).tail, Plain s
  /-- It does not end in a slash. -/
  closed : spelling.toList.getLast? ≠ some '/'

/-- Plain segments without separators look as a canonical spelling does. -/
theorem isCanonical_render {ss : List Segment} (hne : ss ≠ []) (hplain : ∀ s ∈ ss, Plain s)
    (h : ∀ s ∈ ss, ∀ c ∈ s, isSeparator c = false) : IsCanonical (String.ofList (render ss)) where
  rooted := by
    obtain ⟨s, ss, rfl⟩ := List.exists_cons_of_ne_nil hne
    obtain ⟨c, rest, rfl⟩ := List.exists_cons_of_ne_nil (hplain s List.mem_cons_self).ne_nil
    refine ⟨c :: rest ++ render ss, by simp [render], ?_⟩
    have hc := h _ List.mem_cons_self c List.mem_cons_self
    simp only [isSeparator, Bool.or_eq_false_iff, decide_eq_false_iff_not] at hc
    simpa using hc.1
  no_backslash := by
    rw [String.toList_ofList, render, List.mem_flatMap]
    rintro ⟨s, hs, hmem⟩
    rcases List.mem_cons.1 hmem with heq | hmem
    · exact absurd heq (by decide)
    · exact absurd (h s hs _ hmem) (by decide)
  plain := by
    have hslash : ∀ s ∈ ss, ∀ c ∈ s, decide (c = '/') = false := by
      intro s hs c hc
      have := h s hs c hc
      simp only [isSeparator, Bool.or_eq_false_iff] at this
      exact this.1
    have hsplit : Text.splitWhere (fun c => decide (c = '/')) (render ss) = [] :: ss :=
      splitWhere_append_render (by decide) hslash (List.forall_mem_nil _)
    rwa [String.toList_ofList, hsplit]
  closed := by
    obtain ⟨above, s, heq⟩ := (List.eq_nil_or_concat ss).resolve_left hne
    have hs : s ∈ ss := by simp [heq]
    obtain ⟨front, c, hlast⟩ := (List.eq_nil_or_concat s).resolve_left (hplain s hs).ne_nil
    have hc := h s hs c (by simp [hlast])
    simp only [isSeparator, Bool.or_eq_false_iff, decide_eq_false_iff_not] at hc
    simpa [heq, hlast, render, List.getLast?_cons, List.getLast?_append] using hc.1

/-- A path from which no segment is left has no canonical spelling; every other has the segments that
are left, behind a slash each.  That spelling looks as it should, leads where the path leads, and is
its own. -/
theorem canonical_spelling (path : String) :
    canonical path =
        (if segments path.toList = [] then .error (.invalidPath path)
        else .ok (String.ofList ('/' :: ['/'].intercalate (segments path.toList)))) ∧
      ∀ spelling, canonical path = .ok spelling →
        IsCanonical spelling ∧ segments spelling.toList = segments path.toList ∧
          canonical spelling = .ok spelling := by
  have hplain : ∀ s ∈ segments path.toList, Plain s := fun _ hs => plain_of_mem_segments hs
  have hclean : ∀ s ∈ segments path.toList, ∀ c ∈ s, isSeparator c = false :=
    fun _ hs => separator_not_mem_segments hs
  have hcanonical : canonical path =
      (if segments path.toList = [] then .error (.invalidPath path)
      else .ok (String.ofList (render (segments path.toList)))) := by
    rw [canonical, canonical?_eq]
    split <;> simp_all
  refine ⟨?_, fun spelling h => ?_⟩
  · rw [hcanonical]
    split
    · rfl
    · rename_i hne
      rw [cons_intercalate hne]
  · rw [hcanonical] at h
    split at h
    · cases h
    · rename_i hne
      cases h
      refine ⟨isCanonical_render hne hplain hclean, ?_, ?_⟩
      · rw [String.toList_ofList, segments_render hplain hclean]
      · rw [canonical, canonical?_render hne hplain hclean]

/-- A path that climbs above the root, repeats slashes and mixes both separators has a canonical
spelling with all of this settled. -/
theorem canonical_spelling_climbing :
    canonical "\\\\..//src\\.\\x/../a..b/..." = .ok "/src/a..b/..." ∧
      IsCanonical "/src/a..b/..." ∧
      segments "/src/a..b/...".toList = ["src".toList, "a..b".toList, "...".toList] ∧
      canonical "/src/a..b/..." = .ok "/src/a..b/..." := by
  have hread : canonical? "\\\\..//src\\.\\x/../a..b/..." = some "/src/a..b/..." := by
    decide +kernel
  have hspelling : canonical "\\\\..//src\\.\\x/../a..b/..." = .ok "/src/a..b/..." := by
    rw [canonical, hread]
  obtain ⟨hcanonical, _, hself⟩ := (canonical_spelling _).2 _ hspelling
  exact ⟨hspelling, hcanonical, by decide +kernel, hself⟩

end Path
end VideoBundle
