import Mathlib.Data.List.Nodup
import Mathlib.Data.List.TakeWhile
import VideoBundle.Proofs.Module.Identifiers
import VideoBundle.Proofs.Path.Canonical
import VideoBundle.Proofs.Text.Trimming

/-!
# Where path specifiers lead

A path specifier names segments: those of the importing file's directory, unless it is absolute, and
then its own.  From these a fixed row of paths is tried, and the first that is the path of a file is
the one that is imported.  The paths that are tried differ, and each is canonical.

Main results:

- `base?_eq`: the base path is written from the segments that the specifier names.
- `hasSupportedExtension_render_iff`: the last segment tells whether an extension is supported.
- `isTried_candidates`: the candidates in order.
- `resolve_path`, `resolve_package`: where paths lead, and where names that are no host packages do.
- `resolve_reference`: what a specifier leads to.
-/

namespace VideoBundle

/-! ## Extensions of names -/

namespace Path

/-- A name that ends in a supported extension, in whatever case: it starts at the last dot of the name,
and not everything in front of that is dots. -/
def HasSupportedExtension (name : Segment) : Prop :=
  ∃ stem suffix, name = stem ++ '.' :: suffix ∧ '.' ∉ suffix ∧ (∃ c ∈ stem, c ≠ '.') ∧
    String.ofList (Text.lower ('.' :: suffix)) ∈ supportedExtensions

/-- The characters of a name that has its last dot at a known place, read backwards. -/
theorem takeWhile_backwards (stem : List Char) {suffix : List Char} (h : '.' ∉ suffix) :
    (stem ++ '.' :: suffix).reverse.takeWhile (· != '.') = suffix.reverse ∧
      (stem ++ '.' :: suffix).reverse.dropWhile (· != '.') = '.' :: stem.reverse := by
  have hsuffix : ∀ c ∈ suffix.reverse, (c != '.') = true := by
    intro c hc
    simpa using fun heq : c = '.' => h (heq ▸ List.mem_reverse.1 hc)
  rw [List.reverse_append, List.reverse_cons, List.append_assoc,
    List.takeWhile_append_of_pos hsuffix, List.dropWhile_append_of_pos hsuffix]
  simp

/-- The extension of a name with a dot. -/
theorem extension_of_dot {path : String} {stem suffix : List Char}
    (hname : baseName path.toList = stem ++ '.' :: suffix) (hsuffix : '.' ∉ suffix) :
    extension path =
      if stem.all (· == '.') then "" else String.ofList (Text.lower ('.' :: suffix)) := by
  obtain ⟨htake, hdrop⟩ := takeWhile_backwards stem hsuffix
  simp only [extension, hname, htake, hdrop, List.reverse_reverse, List.all_reverse]

/-- A name without a dot has no extension. -/
theorem extension_of_no_dot {path : String} (h : '.' ∉ baseName path.toList) :
    extension path = "" := by
  have hall : ∀ c ∈ (baseName path.toList).reverse, (c != '.') = true := by
    intro c hc
    simpa using fun heq : c = '.' => h (heq ▸ List.mem_reverse.1 hc)
  have hnone : (baseName path.toList).reverse.dropWhile (· != '.') = [] :=
    List.dropWhile_eq_nil_iff.2 hall
  simp only [extension, hnone]

/-- A name with a dot has a last one. -/
theorem exists_last_dot {name : List Char} (h : '.' ∈ name) :
    ∃ stem suffix, name = stem ++ '.' :: suffix ∧ '.' ∉ suffix := by
  induction name with
  | nil => simp at h
  | cons c name ih =>
      by_cases hname : '.' ∈ name
      · obtain ⟨stem, suffix, rfl, hsuffix⟩ := ih hname
        exact ⟨c :: stem, suffix, rfl, hsuffix⟩
      · rcases List.mem_cons.1 h with rfl | h
        · exact ⟨[], name, rfl, hname⟩
        · exact absurd h hname

/-- Whether the extension of a path is supported is a matter of the name at its end. -/
theorem hasSupportedExtension_iff (path : String) :
    hasSupportedExtension path = true ↔ HasSupportedExtension (baseName path.toList) := by
  have hempty : "" ∉ supportedExtensions := by decide
  rw [hasSupportedExtension, List.contains_iff_mem]
  constructor
  · intro h
    by_cases hdot : '.' ∈ baseName path.toList
    · obtain ⟨stem, suffix, hname, hsuffix⟩ := exists_last_dot hdot
      rw [extension_of_dot hname hsuffix] at h
      split at h
      · exact absurd h hempty
      · rename_i hstem
        exact ⟨stem, suffix, hname, hsuffix, by simpa using hstem, h⟩
    · rw [extension_of_no_dot hdot] at h
      exact absurd h hempty
  · rintro ⟨stem, suffix, hname, hsuffix, hstem, h⟩
    have hall : ¬stem.all (· == '.') = true := by simpa using hstem
    rwa [extension_of_dot hname hsuffix, if_neg hall]

/-! ## Paths written from segments -/

/-- A path that is written from segments ends in a slash and the last of them. -/
theorem render_concat (above : List Segment) (name : Segment) :
    render (above ++ [name]) = render above ++ '/' :: name := by
  simp [render]

/-- The last segment of a path tells whether its extension is supported. -/
theorem hasSupportedExtension_render_iff (above : List Segment) {name : Segment}
    (h : ∀ c ∈ name, isSeparator c = false) :
    hasSupportedExtension (String.ofList (render (above ++ [name]))) = true ↔
      HasSupportedExtension name := by
  have hslash : '/' ∉ name := fun hmem => absurd (h _ hmem) (by decide)
  rw [hasSupportedExtension_iff, String.toList_ofList, render_concat,
    baseName_append_slash _ hslash]

end Path

namespace Specifier

open VideoBundle.Path (Segment isSeparator pushSegment render)

/-! ## The base of a specifier -/

/-- What a path specifier says, piece by piece: the directory of the importing file, unless the
specifier is absolute, and then the specifier itself. -/
def basePieces (specifier importer : String) : List Segment :=
  (if isAbsolute specifier then []
    else Text.splitWhere isSeparator (Path.parent importer).toList) ++
  Text.splitWhere isSeparator specifier.toList

/-- The segments that a path specifier names. -/
def baseSegments (specifier importer : String) : List Segment :=
  ((basePieces specifier importer).foldl pushSegment []).reverse

/-- A path below another says what both say, one after the other. -/
theorem foldl_pushSegment_join (parent child : String) :
    (Text.splitWhere isSeparator (Path.join parent child).toList).foldl pushSegment [] =
      (Text.splitWhere isSeparator parent.toList ++
        Text.splitWhere isSeparator child.toList).foldl pushSegment [] := by
  have hslash : isSeparator '/' = true := by decide
  by_cases hempty : parent = ""
  · subst hempty
    simp [Path.join, Text.splitWhere, Path.pushSegment_nil]
  · by_cases hlast : parent.toList.getLast? = some '/'
    · obtain ⟨front, hfront⟩ := List.getLast?_eq_some_iff.1 hlast
      have hpieces : Text.splitWhere isSeparator (front ++ ['/']) =
          Text.splitWhere isSeparator front ++ [[]] :=
        Text.splitWhere_append_cut hslash front []
      rw [Path.join, if_pos (.inr hlast), String.toList_append, hfront, hpieces, List.append_assoc,
        List.singleton_append, Text.splitWhere_append_cut hslash]
      simp [Path.pushSegment_nil]
    · have hjoin : ¬(parent = "" ∨ parent.toList.getLast? = some '/') := not_or.2 ⟨hempty, hlast⟩
      have htext : (parent ++ "/" ++ child).toList = parent.toList ++ '/' :: child.toList := by
        simp
      rw [Path.join, if_neg hjoin, htext, Text.splitWhere_append_cut hslash]

/-- The base path of a specifier is written from the segments that it names. -/
theorem base?_eq (specifier importer : String) :
    base? specifier importer =
      if baseSegments specifier importer = [] then none
      else some (String.ofList (render (baseSegments specifier importer))) := by
  rw [base?]
  split
  · rename_i habsolute
    have hsegments : Path.segments specifier.toList = baseSegments specifier importer := by
      simp [baseSegments, basePieces, habsolute, Path.segments]
    rw [Path.canonical?_eq, hsegments]
  · rename_i hrelative
    have hsegments : Path.segments (Path.join (Path.parent importer) specifier).toList =
        baseSegments specifier importer := by
      rw [Path.segments, foldl_pushSegment_join, baseSegments, basePieces, if_neg hrelative]
    rw [Path.canonical?_eq, hsegments]

/-- The segments that a specifier names are plain. -/
theorem plain_of_mem_baseSegments {specifier importer : String} {s : Segment}
    (h : s ∈ baseSegments specifier importer) : Path.Plain s :=
  Path.plain_of_mem_foldl_pushSegment (List.forall_mem_nil _) (List.mem_reverse.1 h)

/-- The segments that a specifier names hold no separator. -/
theorem separator_not_mem_baseSegments {specifier importer : String} {s : Segment}
    (h : s ∈ baseSegments specifier importer) : ∀ c ∈ s, isSeparator c = false := by
  have hpieces : ∀ piece ∈ basePieces specifier importer, ∀ c ∈ piece, isSeparator c = false := by
    intro piece hpiece
    rcases List.mem_append.1 hpiece with hpiece | hpiece
    · split at hpiece
      · cases hpiece
      · exact Text.not_of_mem_splitWhere _ _ piece hpiece
    · exact Text.not_of_mem_splitWhere _ _ piece hpiece
  rcases Path.mem_foldl_pushSegment (List.mem_reverse.1 h) with h | h
  · cases h
  · exact hpieces s h

/-! ## Candidates -/

/-- The endings that are tried behind a base path: nothing, the extensions, and index files. -/
def endings : List String :=
  "" :: (Path.supportedExtensions ++ Path.supportedExtensions.map ("/index" ++ ·))

/-- The paths that are to be tried for a base: the base alone if its last segment ends in a supported
extension, and else the base with every ending. -/
def IsTried (base : List Segment) (paths : List String) : Prop :=
  (Path.HasSupportedExtension (base.getLastD []) ∧ paths = [String.ofList (render base)]) ∨
    (¬Path.HasSupportedExtension (base.getLastD []) ∧
      paths = endings.map (String.ofList (render base) ++ ·))

variable {above : List Segment} {name : Segment}

/-- The name of an index file below a base. -/
theorem join_index (above : List Segment) {name : Segment} (hplain : Path.Plain name)
    (h : ∀ c ∈ name, isSeparator c = false) (extension : String) :
    Path.join (String.ofList (render (above ++ [name]))) ("index" ++ extension) =
      String.ofList (render (above ++ [name])) ++ ("/index" ++ extension) := by
  have hjoin : ¬(String.ofList (render (above ++ [name])) = "" ∨
      (String.ofList (render (above ++ [name]))).toList.getLast? = some '/') := by
    obtain ⟨front, c, hlast⟩ := (List.eq_nil_or_concat name).resolve_left hplain.ne_nil
    have hc := h c (by simp [hlast])
    simp only [isSeparator, Bool.or_eq_false_iff, decide_eq_false_iff_not] at hc
    simp [Path.render_concat, hlast, List.getLast?_cons, List.getLast?_append, hc.1]
  rw [Path.join, if_neg hjoin]
  apply String.toList_injective
  simp

/-- The candidates for a base are the paths that are to be tried for it, in order. -/
theorem isTried_candidates (hplain : Path.Plain name) (h : ∀ c ∈ name, isSeparator c = false) :
    IsTried (above ++ [name]) (candidates (String.ofList (render (above ++ [name])))) := by
  have hsupported := Path.hasSupportedExtension_render_iff above h
  rw [IsTried, candidates, List.getLastD_concat, ← hsupported]
  split
  · rename_i hextension
    exact .inl ⟨hextension, rfl⟩
  · rename_i hextension
    refine .inr ⟨hextension, ?_⟩
    have hself : String.ofList (render (above ++ [name])) ++ "" =
        String.ofList (render (above ++ [name])) := String.append_empty
    simp only [endings, List.map_cons, List.map_append, List.map_map, hself, Function.comp_def,
      join_index above hplain h]

/-- The paths that are tried for a base differ. -/
theorem IsTried.nodup {base : List Segment} {paths : List String} (h : IsTried base paths) :
    paths.Nodup := by
  rcases h with ⟨_, rfl⟩ | ⟨_, rfl⟩
  · exact List.nodup_singleton _
  · have hendings : endings.Nodup := by decide +kernel
    refine hendings.map fun a b hab => ?_
    have htext := congrArg String.toList hab
    simp only [String.toList_append, List.append_cancel_left_eq] at htext
    exact String.toList_injective htext

/-- Something that is not a short row of dots, behind a name, is no separate step. -/
theorem plain_append {name : Segment} (hname : name ≠ []) {ending : List Char}
    (hending : 2 ≤ ending.length) : Path.Plain (name ++ ending) := by
  have hlength : 3 ≤ (name ++ ending).length := by
    have := List.length_pos_iff.2 hname
    rw [List.length_append]
    omega
  constructor <;> rintro heq <;> rw [heq] at hlength <;> simp at hlength

/-- Every path that is tried for a base is canonical. -/
theorem IsTried.canonical {paths : List String} (h : IsTried (above ++ [name]) paths)
    (hplain : ∀ s ∈ above ++ [name], Path.Plain s)
    (hclean : ∀ s ∈ above ++ [name], ∀ c ∈ s, isSeparator c = false) :
    ∀ path ∈ paths, Path.canonical path = .ok path := by
  have hbase (ss : List Segment) (hne : ss ≠ []) (hplain : ∀ s ∈ ss, Path.Plain s)
      (hclean : ∀ s ∈ ss, ∀ c ∈ s, isSeparator c = false) :
      Path.canonical (String.ofList (render ss)) = .ok (String.ofList (render ss)) := by
    rw [Path.canonical, Path.canonical?_render hne hplain hclean]
  have hextensions : ∀ extension ∈ Path.supportedExtensions,
      2 ≤ extension.toList.length ∧ ∀ c ∈ extension.toList, isSeparator c = false := by
    decide +kernel
  have hself := hbase _ (by simp) hplain hclean
  rw [List.forall_mem_append, List.forall_mem_singleton] at hplain hclean
  rcases h with ⟨_, rfl⟩ | ⟨_, rfl⟩
  · exact List.forall_mem_singleton.2 hself
  · simp only [endings, List.map_cons, List.map_append, List.forall_mem_cons, List.forall_mem_append,
      List.forall_mem_map, List.map_map]
    refine ⟨?verbatim, fun extension hextension => ?withExtension, fun extension hextension => ?index⟩
    case verbatim => rwa [show ∀ s : String, s ++ "" = s from fun _ => String.append_empty]
    case withExtension =>
      obtain ⟨hlength, hseparators⟩ := hextensions extension hextension
      have hpath : String.ofList (render (above ++ [name])) ++ extension =
          String.ofList (render (above ++ [name ++ extension.toList])) := by
        apply String.toList_injective
        simp [Path.render_concat]
      rw [hpath]
      refine hbase _ (by simp) ?_ ?_ <;> rw [List.forall_mem_append, List.forall_mem_singleton]
      · exact ⟨hplain.1, plain_append hplain.2.ne_nil hlength⟩
      · exact ⟨hclean.1, List.forall_mem_append.2 ⟨hclean.2, hseparators⟩⟩
    case index =>
      obtain ⟨hlength, hseparators⟩ := hextensions extension hextension
      have hpath : String.ofList (render (above ++ [name])) ++ ("/index" ++ extension) =
          String.ofList (render ((above ++ [name]) ++ ["index".toList ++ extension.toList])) := by
        apply String.toList_injective
        rw [Path.render_concat (above ++ [name])]
        simp
      rw [Function.comp_apply, hpath]
      refine hbase _ (by simp) ?_ ?_ <;> rw [List.forall_mem_append, List.forall_mem_singleton,
        List.forall_mem_append, List.forall_mem_singleton]
      · exact ⟨hplain, plain_append (by decide) hlength⟩
      · exact ⟨hclean, List.forall_mem_append.2 ⟨by decide, hseparators⟩⟩

/-! ## What a specifier leads to -/

/-- A path specifier hits a file when it names a segment and one of its candidates is a file. -/
theorem locate_eq (isFile : String → Bool) (specifier importer : String) :
    locate isFile specifier importer =
      if baseSegments specifier importer = [] then none
      else (candidates (String.ofList (render (baseSegments specifier importer)))).find? isFile := by
  rw [locate, base?_eq]
  split
  · rw [Option.bind_none]
  · rw [Option.bind_some]

/-- A text that is the name of no host package is taken for none. -/
theorem ofSpecifier?_of_ne {specifier : String}
    (h : ∀ package : HostPackage, specifier ≠ package.specifier) :
    HostPackage.ofSpecifier? specifier = none := by
  rw [Option.eq_none_iff_forall_ne_some]
  intro package hpackage
  exact h package (HostPackage.specifier_of_ofSpecifier? hpackage).symm

/-- A path is the name of no host package. -/
theorem ne_host_of_isPath {specifier : String} (hpath : isPath specifier = true)
    (package : HostPackage) : specifier ≠ package.specifier := by
  rintro rfl
  rw [not_isPath_host] at hpath
  cases hpath

/-- From a file with an absolute path, a path leads to the file that it hits. -/
theorem resolve_path {specifier importer : String} (hpath : isPath specifier = true)
    (himporter : isAbsolute importer = true) (isFile : String → Bool) (entry : Option String) :
    resolve isFile specifier (some importer) entry =
      match locate isFile specifier importer with
      | some path => .ok (.file path)
      | none => .error ⟨specifier, importer⟩ := by
  have hhost := ofSpecifier?_of_ne (ne_host_of_isPath hpath)
  cases hlocate : locate isFile specifier importer <;>
    simp [resolve, hhost, hpath, importingFile_of_absolute himporter, hlocate]

/-- A specifier that is neither a path nor the name of a host package leads to an installed package. -/
theorem resolve_package {specifier : String} (hpath : isPath specifier = false)
    (hhosts : ∀ package : HostPackage, specifier ≠ package.specifier) (isFile : String → Bool)
    (importer entry : Option String) :
    resolve isFile specifier importer entry = .ok (.package specifier) := by
  simp [resolve, ofSpecifier?_of_ne hhosts, hpath]

/-- From a file with a canonical path, a path specifier leads to the first of its candidates that is a
file, and nowhere when it names no segment or no candidate is a file.  The candidates are those that
are to be tried, they differ, and they are canonical.  The names of host packages lead to the host from
everywhere, and every other name leads to an installed package. -/
theorem resolve_reference {specifier importer : String} (hpath : isPath specifier = true)
    (himporter : Path.canonical importer = .ok importer) (isFile : String → Bool) :
    ∃ base paths, base = baseSegments specifier importer ∧
      (base ≠ [] → IsTried base paths ∧ paths.Nodup ∧ ∀ path ∈ paths, Path.canonical path = .ok path) ∧
      (locate isFile specifier importer = none ↔ base = [] ∨ ∀ path ∈ paths, isFile path = false) ∧
      (∀ path, locate isFile specifier importer = some path ↔
        base ≠ [] ∧ ∃ earlier later, paths = earlier ++ path :: later ∧ isFile path = true ∧
          ∀ other ∈ earlier, isFile other = false) ∧
      (∀ entry, resolve isFile specifier (some importer) entry =
        match locate isFile specifier importer with
        | some path => .ok (.file path)
        | none => .error ⟨specifier, importer⟩) ∧
      (∀ (package : HostPackage) (given entry : Option String),
        resolve isFile package.specifier given entry = .ok (.host package)) ∧
      ∀ (other : String) (given entry : Option String), isPath other = false →
        (∀ package : HostPackage, other ≠ package.specifier) →
          resolve isFile other given entry = .ok (.package other) := by
  refine ⟨_, candidates (String.ofList (render (baseSegments specifier importer))), rfl, ?tried,
    ?nowhere, ?first, ?resolved, resolve_host isFile,
    fun _ given entry hother hhosts => resolve_package hother hhosts isFile given entry⟩
  case tried =>
    intro hne
    have hplain : ∀ s ∈ baseSegments specifier importer, Path.Plain s :=
      fun _ => plain_of_mem_baseSegments
    have hclean : ∀ s ∈ baseSegments specifier importer, ∀ c ∈ s, isSeparator c = false :=
      fun _ => separator_not_mem_baseSegments
    obtain ⟨above, name, hbase⟩ := (List.eq_nil_or_concat _).resolve_left hne
    rw [List.concat_eq_append] at hbase
    rw [hbase] at hplain hclean ⊢
    have hname : name ∈ above ++ [name] := List.mem_append_right _ List.mem_cons_self
    have htried : IsTried (above ++ [name])
        (candidates (String.ofList (render (above ++ [name])))) :=
      isTried_candidates (hplain name hname) (hclean name hname)
    exact ⟨htried, htried.nodup, htried.canonical hplain hclean⟩
  case nowhere =>
    rw [locate_eq]
    split
    · simp [*]
    · simp [*]
  case first =>
    intro path
    rw [locate_eq]
    split
    · simp [*]
    · simp [*, List.find?_eq_some_iff_append, and_left_comm]
  case resolved =>
    have habsolute : isAbsolute importer = true := by
      rw [Path.canonical] at himporter
      split at himporter
      · rename_i hcanonical
        rw [Except.ok.inj himporter] at hcanonical
        exact isAbsolute_of_canonical? hcanonical
      · cases himporter
    exact resolve_path hpath habsolute isFile

/-- The files of a project with two index files in one directory. -/
def logoFiles : List String :=
  ["/src/app/Main.tsx", "/src/lib/Logo/index.js", "/src/lib/Logo/index.ts", "/src/lib/Logo.d"]

/-- A specifier that goes up and down under mixed separators hits the first of two index files. -/
theorem resolve_reference_index :
    isPath "..\\./lib//Logo" = true ∧ Path.canonical "/src/app/Main.tsx" = .ok "/src/app/Main.tsx" ∧
      ∃ paths, IsTried ["src".toList, "lib".toList, "Logo".toList] paths ∧ paths.Nodup ∧
        (∀ path ∈ paths, Path.canonical path = .ok path) ∧
        resolve logoFiles.contains "..\\./lib//Logo" (some "/src/app/Main.tsx") none =
          .ok (.file "/src/lib/Logo/index.ts") := by
  have hpath : isPath "..\\./lib//Logo" = true := by decide
  have himporter : Path.canonical "/src/app/Main.tsx" = .ok "/src/app/Main.tsx" := by
    have hread : Path.canonical? "/src/app/Main.tsx" = some "/src/app/Main.tsx" := by decide +kernel
    rw [Path.canonical, hread]
  have hbase : baseSegments "..\\./lib//Logo" "/src/app/Main.tsx" =
      ["src".toList, "lib".toList, "Logo".toList] := by
    decide +kernel
  have hlocate : locate logoFiles.contains "..\\./lib//Logo" "/src/app/Main.tsx" =
      some "/src/lib/Logo/index.ts" := by
    decide +kernel
  obtain ⟨_, paths, rfl, htried, _, _, hresolve, _⟩ :=
    resolve_reference hpath himporter logoFiles.contains
  rw [hbase] at htried
  obtain ⟨htried, hnodup, hcanonical⟩ := htried (List.cons_ne_nil _ _)
  refine ⟨hpath, himporter, paths, htried, hnodup, hcanonical, ?_⟩
  rw [hresolve none, hlocate]

end Specifier
end VideoBundle
