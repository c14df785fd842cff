import Mathlib.Data.List.Nodup
import Mathlib.Data.List.TakeWhile
import VideoBundle.Compile.Walk
import VideoBundle.FileTree.Project
import VideoBundle.Proofs.Module.DataUrl
import VideoBundle.Proofs.Path.Canonical

/-!
# Assets on disk

A project that is read from a directory holds every asset as a text, under the path that leads to its
file.  Bytes that are no text are kept in a data URL from the start; a text becomes one when the asset
is built.

Main results:

- `nodup_filesIn`: the rows of names below a directory differ.
- `lookupEntry_ofDirectory`: the project holds the source of every supported file under its path.
- `asset_carries_bytes`: the data URL of an asset carries the bytes of the file.
-/

namespace VideoBundle

/-! ## Names in a tree -/

namespace FileTree

/-- What an entry of a directory can be called. -/
def IsName (name : String) : Prop := name ≠ "" ∧ '/' ∉ name.toList

instance (name : String) : Decidable (IsName name) := by
  unfold IsName
  infer_instance

mutual

/-- Whether the entries of every directory in a tree have names, and different ones. -/
def WellNamed : FileTree → Prop
  | file _ => True
  | directory entries => WellNamedIn entries

/-- Whether the entries of a directory, and of those below it, have different names. -/
def WellNamedIn : List (String × FileTree) → Prop
  | [] => True
  | (name, tree) :: entries =>
      IsName name ∧ name ∉ entries.map Prod.fst ∧ WellNamed tree ∧ WellNamedIn entries

end

/-- The way to a file starts with the name of an entry. -/
theorem exists_name_of_mem_filesIn {entries : List (String × FileTree)}
    {found : List String × List UInt8} (h : found ∈ filesIn entries) :
    ∃ name ∈ entries.map Prod.fst, ∃ names, found.1 = name :: names := by
  induction entries with
  | nil => simp [filesIn] at h
  | cons entry entries ih =>
      obtain ⟨name, tree⟩ := entry
      rw [filesIn, List.mem_append] at h
      rcases h with h | h
      · obtain ⟨below, _, rfl⟩ := List.mem_map.1 h
        exact ⟨name, List.mem_cons_self, below.1, rfl⟩
      · obtain ⟨other, hother, hnames⟩ := ih h
        exact ⟨other, List.mem_cons_of_mem _ hother, hnames⟩

mutual

/-- In a well-named tree the way to every file is made of names. -/
theorem isName_of_mem_files {names : List String} {bytes : List UInt8} :
    ∀ {tree : FileTree}, WellNamed tree → (names, bytes) ∈ files tree → ∀ name ∈ names, IsName name
  | file _, _, hfile => by
      rw [files, List.mem_singleton, Prod.mk.injEq] at hfile
      simp [hfile.1]
  | directory _, h, hfile => isName_of_mem_filesIn h hfile

/-- The way to a file leads along names. -/
theorem isName_of_mem_filesIn {names : List String} {bytes : List UInt8} :
    ∀ {entries : List (String × FileTree)}, WellNamedIn entries →
      (names, bytes) ∈ filesIn entries → ∀ name ∈ names, IsName name
  | [], _, hfile => by simp [filesIn] at hfile
  | (first, tree) :: entries, h, hfile => by
      obtain ⟨hname, _, htree, hentries⟩ := h
      rw [filesIn, List.mem_append] at hfile
      rcases hfile with hfile | hfile
      · obtain ⟨below, hbelow, heq⟩ := List.mem_map.1 hfile
        cases heq
        exact List.forall_mem_cons.2 ⟨hname, isName_of_mem_files htree hbelow⟩
      · exact isName_of_mem_filesIn hentries hfile

end

mutual

/-- In a well-named tree no two files have the same way. -/
theorem nodup_files : ∀ {tree : FileTree}, WellNamed tree → ((files tree).map Prod.fst).Nodup
  | file _, _ => List.nodup_singleton _
  | directory _, h => nodup_filesIn h

/-- The rows of names below a directory differ. -/
theorem nodup_filesIn : ∀ {entries : List (String × FileTree)},
    WellNamedIn entries → ((filesIn entries).map Prod.fst).Nodup
  | [], _ => List.nodup_nil
  | (name, tree) :: entries, h => by
      obtain ⟨_, hnew, htree, hentries⟩ := h
      have hbelow : ((files tree).map fun found => name :: found.1).Nodup := by
        have := (nodup_files htree).map (List.cons_injective (a := name))
        rwa [List.map_map] at this
      rw [filesIn, List.map_append, List.map_map]
      refine List.nodup_append.2 ⟨hbelow, nodup_filesIn hentries, ?_⟩
      -- Rows below this entry start with its name, and rows below the others do not.
      rintro _ hfirst _ hother rfl
      obtain ⟨found, _, hfound⟩ := List.mem_map.1 hfirst
      obtain ⟨other, hmem, heq⟩ := List.mem_map.1 hother
      obtain ⟨start, hstart, names, hnames⟩ := exists_name_of_mem_filesIn hmem
      rw [hnames, ← hfound] at heq
      exact hnew ((List.cons.inj heq).1 ▸ hstart)

end

end FileTree

/-! ## Paths below a directory -/

namespace ProjectFile

open FileTree (IsName WellNamedIn filesIn)

/-- The path of a file below the directory of a project. -/
def pathBelow (names : List String) : String := "/" ++ "/".intercalate names

theorem toList_pathBelow (names : List String) :
    (pathBelow names).toList = '/' :: ['/'].intercalate (names.map String.toList) := by
  simp [pathBelow, String.toList_intercalate]

/-- Different rows of names lead to different paths. -/
theorem pathBelow_injective {names others : List String} (hnames : names ≠ []) (hothers : others ≠ [])
    (h : ∀ name ∈ names, IsName name) (h' : ∀ name ∈ others, IsName name)
    (heq : pathBelow names = pathBelow others) : names = others := by
  have hsplit : ∀ row : List String, row ≠ [] → (∀ name ∈ row, IsName name) →
      Text.splitWhere (· == '/') (['/'].intercalate (row.map String.toList)) =
        row.map String.toList := by
    intro row hne hrow
    refine Text.splitWhere_intercalate (by decide) (by simpa using hne) ?_
    rintro _ hpiece c hc
    obtain ⟨name, hname, rfl⟩ := List.mem_map.1 hpiece
    simpa using fun hslash : c = '/' => (hrow name hname).2 (hslash ▸ hc)
  have hlists := congrArg String.toList heq
  rw [toList_pathBelow, toList_pathBelow, List.cons.injEq] at hlists
  have hpieces := congrArg (Text.splitWhere (· == '/')) hlists.2
  rw [hsplit names hnames h, hsplit others hothers h'] at hpieces
  exact List.map_injective_iff.2 (fun _ _ => String.toList_injective) hpieces

/-- The path of a file ends in a slash and the name of the file. -/
theorem exists_toList_pathBelow (names : List String) (name : String) :
    ∃ above, (pathBelow (names ++ [name])).toList = above ++ '/' :: name.toList := by
  rw [toList_pathBelow]
  induction names with
  | nil => exact ⟨[], by simp⟩
  | cons first names ih =>
      obtain ⟨above, habove⟩ := ih
      refine ⟨'/' :: first.toList ++ above, ?_⟩
      have hne : (names ++ [name]).map String.toList ≠ [] := by simp
      obtain ⟨second, rest, hrest⟩ := List.exists_cons_of_ne_nil hne
      rw [hrest] at habove
      rw [List.cons_append, List.map_cons, hrest, List.intercalate_cons_cons, List.append_assoc,
        List.singleton_append, habove]
      simp

/-- The extension of a path is that of the name at its end. -/
theorem extension_pathBelow (names : List String) {name : String} (h : IsName name) :
    Path.extension (pathBelow (names ++ [name])) = Path.extension name := by
  obtain ⟨above, habove⟩ := exists_toList_pathBelow names name
  rw [Path.extension, Path.extension, habove, Path.baseName_append_slash above h.2,
    Path.baseName_of_not_mem h.2]

/-! ## The files of a project -/

/-- The name of the file to which a row of names leads. -/
def lastName (names : List String) : String := (names.getLast?).getD ""

/-- The supported files below a directory, each under its path. -/
theorem ofDirectory_eq (entries : List (String × FileTree)) :
    ofDirectory entries =
      ((filesIn entries).filter fun found => Path.hasSupportedExtension (lastName found.1)).map
        fun found => (pathBelow found.1, .text (source (lastName found.1) found.2)) := by
  rw [ofDirectory]
  induction filesIn entries with
  | nil => rfl
  | cons found more ih =>
      rw [List.filterMap_cons, List.filter_cons]
      dsimp only
      split <;> simp_all [pathBelow, lastName]

/-- The paths of a project that is read from a directory differ. -/
theorem nodup_ofDirectory {entries : List (String × FileTree)} (h : WellNamedIn entries) :
    ((ofDirectory entries).map Prod.fst).Nodup := by
  have hway : ∀ found ∈ filesIn entries, found.1 ≠ [] ∧ ∀ name ∈ found.1, IsName name := by
    intro found hfound
    obtain ⟨_, _, names, hnames⟩ := FileTree.exists_name_of_mem_filesIn hfound
    exact ⟨by simp [hnames], FileTree.isName_of_mem_filesIn h hfound⟩
  have hpaths : (ofDirectory entries).map Prod.fst =
      (((filesIn entries).filter fun found =>
        Path.hasSupportedExtension (lastName found.1)).map Prod.fst).map pathBelow := by
    rw [ofDirectory_eq, List.map_map, List.map_map]
    rfl
  rw [hpaths]
  refine ((FileTree.nodup_filesIn h).sublist (List.filter_sublist.map Prod.fst)).map_on ?_
  rintro _ hfirst _ hother heq
  obtain ⟨first, hmem, rfl⟩ := List.mem_map.1 hfirst
  obtain ⟨other, hmem', rfl⟩ := List.mem_map.1 hother
  obtain ⟨hne, hnames⟩ := hway first (List.mem_of_mem_filter hmem)
  obtain ⟨hne', hnames'⟩ := hway other (List.mem_of_mem_filter hmem')
  exact pathBelow_injective hne hne' hnames hnames' heq

/-- A project that is read from a directory holds the source of every supported file under the path
that leads to it. -/
theorem lookupEntry_ofDirectory {entries : List (String × FileTree)} (h : WellNamedIn entries)
    {names : List String} {name : String} {bytes : List UInt8}
    (hfile : (names ++ [name], bytes) ∈ filesIn entries)
    (hsupported : Path.hasSupportedExtension name = true) :
    lookupEntry (pathBelow (names ++ [name])) (ofDirectory entries) =
      some (.text (source name bytes)) := by
  rw [lookupEntry_eq_some_iff (nodup_ofDirectory h), ofDirectory_eq]
  refine List.mem_map.2 ⟨(names ++ [name], bytes), List.mem_filter.2 ⟨hfile, ?_⟩, ?_⟩
  · simpa [lastName] using hsupported
  · simp [lastName]

/-! ## Assets -/

/-- A text without carriage returns has one spelling of line ends. -/
theorem unifyNewlines_eq_self {cs : List Char} (h : '\r' ∉ cs) : Text.unifyNewlines cs = cs := by
  fun_induction Text.unifyNewlines cs with
  | case1 => rfl
  | case2 cs ih => simp at h
  | case3 c cs _ ih =>
      rw [List.mem_cons, not_or] at h
      rw [if_neg (Ne.symm h.1), ih h.2]

/-- Files of which nothing but the bytes is used have an extension that is supported. -/
theorem hasSupportedExtension_of_loader {path : String} (h : Path.loader path = .dataUrl) :
    Path.hasSupportedExtension path = true := by
  rw [Path.hasSupportedExtension, List.contains_iff_mem]
  refine Classical.byContradiction fun hnot => ?_
  have hnone : Path.loaders.lookup (Path.extension path) = none := by
    rw [List.lookup_eq_none_iff]
    intro entry hentry
    simpa using fun heq : Path.extension path = entry.1 =>
      hnot (heq ▸ List.mem_map_of_mem hentry)
  rw [Path.loader, hnone] at h
  cases h

/-- The data URL of a text that is none itself carries the text with one spelling of line ends. -/
theorem contents?_source_of_text {bytes : List UInt8} {text : List Char}
    (hdecode : Utf8.decode bytes = .ok text)
    (hurl : DataUrl.isDataUrl (String.ofList (Text.unifyNewlines text)) = false)
    (path name : String) :
    DataUrl.contents? (DataUrl.ofSource path (source name bytes)) =
      some (Utf8.encode (Text.unifyNewlines text)) := by
  have hsource : source name bytes = String.ofList (Text.unifyNewlines text) := by
    simp [source, text?, hdecode, Except.map]
  rw [hsource, DataUrl.contents?_ofSource hurl, String.toList_ofList]

/-- The data URL of bytes that are no text carries them. -/
theorem contents?_source_of_no_text {bytes : List UInt8} {e : Utf8.DecodeError}
    (hdecode : Utf8.decode bytes = .error e) (path name : String) :
    DataUrl.contents? (DataUrl.ofSource path (source name bytes)) = some bytes := by
  have hsource : source name bytes = DataUrl.ofBytes (mediaType name) bytes := by
    simp [source, text?, hdecode, Except.map]
  have hcomma : ',' ∉ (mediaType name).toList :=
    DataUrl.forall_getD_lookup (P := fun type => ',' ∉ type.toList) (by decide) (by decide) _
  rw [hsource, DataUrl.ofSource_of_isDataUrl (DataUrl.isDataUrl_ofBytes _ _),
    DataUrl.contents?_ofBytes hcomma]

/-- The module of an asset hands out the data URL of its source. -/
theorem buildFile_of_dataUrl {p : Walk.Project} {path source : String}
    (hasset : Path.loader path = .dataUrl) (hsource : p.sources.find? path = some (.ofString source)) :
    Walk.buildFile p path =
      .ok (.plain ("module.exports = " ++ Json.literal (DataUrl.ofSource path source) ++ ";"), []) := by
  simp only [Walk.buildFile, hsource, hasset, PointText.toText_ofString]
  rfl

/-- An asset in a directory is built to a module that hands out a data URL, made from what the project
holds under the path of the file.  Unless the file is a text with carriage returns, the URL carries the
bytes of the file; only a text that is a data URL itself is handed out as it is. -/
theorem asset_carries_bytes {entries : List (String × FileTree)} (h : WellNamedIn entries)
    {names : List String} {name : String} {bytes : List UInt8}
    (hfile : (names ++ [name], bytes) ∈ filesIn entries)
    (hasset : Path.loader (pathBelow (names ++ [name])) = .dataUrl)
    (hlines : ∀ text, Utf8.decode bytes = .ok text → '\r' ∉ text) :
    ∃ source url, lookupEntry (pathBelow (names ++ [name])) (ofDirectory entries) =
        some (.text source) ∧
      url = DataUrl.ofSource (pathBelow (names ++ [name])) source ∧
      (∀ p : Walk.Project, p.sources.find? (pathBelow (names ++ [name])) =
          some (.ofString source) →
        Walk.buildFile p (pathBelow (names ++ [name])) =
          .ok (.plain ("module.exports = " ++ Json.literal url ++ ";"), [])) ∧
      (∀ text, Utf8.decode bytes = .ok text → DataUrl.isDataUrl (String.ofList text) = true →
        url = String.ofList text) ∧
      ((∀ text, Utf8.decode bytes = .ok text → DataUrl.isDataUrl (String.ofList text) = false) →
        DataUrl.contents? url = some bytes) := by
  have hname : IsName name := FileTree.isName_of_mem_filesIn h hfile name (by simp)
  have hsupported : Path.hasSupportedExtension name = true := by
    have := hasSupportedExtension_of_loader hasset
    rwa [Path.hasSupportedExtension, extension_pathBelow names hname] at this
  refine ⟨source name bytes, _, lookupEntry_ofDirectory h hfile hsupported, rfl, ?built, ?kept,
    ?carried⟩
  case built =>
    intro p hsource
    exact buildFile_of_dataUrl hasset hsource
  case kept =>
    intro text hdecode hurl
    have hsource : source name bytes = String.ofList text := by
      simp [source, text?, hdecode, Except.map, unifyNewlines_eq_self (hlines text hdecode)]
    rw [hsource, DataUrl.ofSource_of_isDataUrl hurl]
  case carried =>
    intro hnone
    cases hdecode : Utf8.decode bytes with
    | error e => exact contents?_source_of_no_text hdecode _ name
    | ok text =>
        have hsame := unifyNewlines_eq_self (hlines text hdecode)
        have hurl : DataUrl.isDataUrl (String.ofList (Text.unifyNewlines text)) = false := by
          rw [hsame]
          exact hnone text hdecode
        rw [contents?_source_of_text hdecode hurl, hsame, Utf8.encode_of_decode hdecode]

/-- A project with a vector image and a photo, which is no text. -/
def pictures : List (String × FileTree) :=
  [("src", .directory [("logo.svg", .file (Utf8.encode "<svg/>\n".toList)),
    ("photo.png", .file [0x89, 0x50, 0x4E, 0x47, 0x0D, 0x0A])])]

/-- A vector image and a photograph are carried byte for byte, each as its own kind of URL. -/
theorem pictures_carry_bytes :
    (∃ source, lookupEntry "/src/logo.svg" (ofDirectory pictures) = some (.text source) ∧
      DataUrl.contents? (DataUrl.ofSource "/src/logo.svg" source) =
        some (Utf8.encode "<svg/>\n".toList)) ∧
    ∃ source, lookupEntry "/src/photo.png" (ofDirectory pictures) = some (.text source) ∧
      DataUrl.contents? (DataUrl.ofSource "/src/photo.png" source) =
        some [0x89, 0x50, 0x4E, 0x47, 0x0D, 0x0A] := by
  have hnamed : WellNamedIn pictures := by
    simp [pictures, FileTree.WellNamedIn, FileTree.WellNamed, IsName]
  have hlogo : pathBelow (["src"] ++ ["logo.svg"]) = "/src/logo.svg" := by decide +kernel
  have hphoto : pathBelow (["src"] ++ ["photo.png"]) = "/src/photo.png" := by decide +kernel
  have htext : Utf8.decode (Utf8.encode "<svg/>\n".toList) = .ok "<svg/>\n".toList := by rfl
  have hnone : ∀ text, Utf8.decode [0x89, 0x50, 0x4E, 0x47, 0x0D, 0x0A] ≠ .ok text := by
    intro text h
    cases h
  have hlogoFile : (["src"] ++ ["logo.svg"], Utf8.encode "<svg/>\n".toList) ∈ filesIn pictures := by
    decide +kernel
  have hphotoFile : (["src"] ++ ["photo.png"], [0x89, 0x50, 0x4E, 0x47, 0x0D, 0x0A]) ∈
      filesIn pictures := by
    decide +kernel
  constructor
  · obtain ⟨source, _, hsource, rfl, -, -, hcarried⟩ := asset_carries_bytes hnamed hlogoFile
      (by decide +kernel) (by rw [htext]; rintro _ ⟨⟩; decide)
    rw [hlogo] at hsource hcarried
    exact ⟨source, hsource, hcarried (by rw [htext]; rintro _ ⟨⟩; decide +kernel)⟩
  · obtain ⟨source, _, hsource, rfl, -, -, hcarried⟩ := asset_carries_bytes hnamed hphotoFile
      (by decide +kernel) (fun text h => absurd h (hnone text))
    rw [hphoto] at hsource hcarried
    exact ⟨source, hsource, hcarried fun text h => absurd h (hnone text)⟩

/-- A project with a vector image whose text is a data URL. -/
def link : List (String × FileTree) := [("link.svg", .file (Utf8.encode "data:,hi".toList))]

/-- The URL in `link` is handed out as it is, and carries less than the file holds. -/
theorem link_carries_less :
    ¬ ∀ (entries : List (String × FileTree)) (names : List String) (name : String)
      (bytes : List UInt8), WellNamedIn entries → (names ++ [name], bytes) ∈ filesIn entries →
        Path.loader (pathBelow (names ++ [name])) = .dataUrl →
        ∃ source, lookupEntry (pathBelow (names ++ [name])) (ofDirectory entries) =
            some (.text source) ∧
          DataUrl.contents? (DataUrl.ofSource (pathBelow (names ++ [name])) source) =
            some bytes := by
  intro h
  obtain ⟨source, hsource, hcarried⟩ := h link [] "link.svg" (Utf8.encode "data:,hi".toList)
    (by simp [link, FileTree.WellNamedIn, FileTree.WellNamed, IsName])
    (by decide +kernel) (by decide +kernel)
  have hheld : lookupEntry (pathBelow ([] ++ ["link.svg"])) (ofDirectory link) =
      some (.text "data:,hi") := by decide +kernel
  rw [hheld, Option.some_inj, Value.text.injEq] at hsource
  have hshort : DataUrl.contents? (DataUrl.ofSource (pathBelow ([] ++ ["link.svg"])) "data:,hi") =
      some (Utf8.encode "hi".toList) := by decide +kernel
  rw [← hsource, hshort] at hcarried
  exact absurd hcarried (by decide +kernel)

end ProjectFile
end VideoBundle
