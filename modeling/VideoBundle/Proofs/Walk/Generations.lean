import Mathlib.Data.List.Perm.Subperm
import VideoBundle.Proofs.Walk.Invariant

/-!
# Generations of files

The invariant is carried through the steps of a walk: following the imports of one file, linking one
file, building and linking the files of a generation in one round, and one round after another.  A walk
never runs out of rounds, because every round builds a source that was not built before; for the same
reason it does not matter how many rounds more it would be given.

Main results:

- `Invariant.linkFile`: linking a file moves it to the built files.
- `Invariant.linkFiles`: linking the files of a generation leaves none to be linked.
- `Invariant.round`: a round builds all files that wait.
- `Invariant.generations`: at the end nothing is linked or waits.
- `Invariant.generations_rounds`: a walk with enough rounds does not depend on their number.
-/

namespace VideoBundle
namespace Walk

variable {p : Project} {pending : List String} {found found' : Found}

/-! ## One file -/

/-- A specifier that leads to a target that was met joins the links of a file. -/
theorem Links.insert {path specifier : String} {done seen : List String}
    {dependencies : OrderedMap String String} {target : ImportTarget}
    (h : Links p path done dependencies seen) (hresolve : p.resolve path specifier = .ok target)
    (hseen : moduleId target ∈ seen) :
    Links p path (done ++ [specifier]) (dependencies.insert specifier (moduleId target)) seen := by
  constructor
  case total =>
    intro other hmem
    by_cases hother : other = specifier
    · subst hother
      exact ⟨target, hresolve, by simp, hseen⟩
    · obtain ⟨target', hresolve', hfind, hseen'⟩ := h.total other (by simpa [hother] using hmem)
      exact ⟨target', hresolve', by simp [hother, hfind], hseen'⟩
  case only =>
    intro other id hfind
    by_cases hother : other = specifier
    · simp [hother]
    · rw [OrderedMap.find?_insert, if_neg hother] at hfind
      exact List.mem_append_left _ (h.only other id hfind)

/-- Following the imports of a file keeps the invariant and links all of them. -/
theorem Invariant.follow (hrooted : p.Rooted) {path : String} {specifiers done : List String}
    {dependencies dependencies' : OrderedMap String String} (hinv : Invariant p pending found)
    (hmet : ∀ specifier ∈ specifiers, ∀ target, p.resolve path specifier = .ok target →
      Met p (moduleId target))
    (hlinks : Links p path done dependencies found.seen)
    (h : Walk.follow p path dependencies found specifiers = .ok (dependencies', found')) :
    Invariant p pending found' ∧ Links p path (done ++ specifiers) dependencies' found'.seen ∧
      found'.builds = found.builds := by
  induction specifiers generalizing done dependencies found with
  | nil =>
      cases h
      exact ⟨hinv, by simpa using hlinks, rfl⟩
  | cons specifier specifiers ih =>
      simp only [Walk.follow] at h
      split at h
      · simp at h
      · rename_i target hresolve
        split at h
        · simp at h
        · rename_i found₁ hmeet
          obtain ⟨hinv₁, hseen, hgrow, hbuilds⟩ := hinv.meet hrooted
            (hmet specifier List.mem_cons_self target hresolve)
            (fun file hfile => contains_of_resolve (hfile ▸ hresolve)) hmeet
          obtain ⟨hinv', hlinks', hbuilds'⟩ := ih hinv₁
            (fun other hother => hmet other (List.mem_cons_of_mem _ hother))
            ((hlinks.mono hgrow).insert hresolve hseen) h
          exact ⟨hinv', by simpa using hlinks', hbuilds'.trans hbuilds⟩

/-- The module of a file that is linked for the first time joins the modules. -/
theorem ModulesLinked.insert {modules : ModuleTable} {builds : OrderedMap String BuiltFile}
    {seen : List String} {path : String} {build : BuiltFile} {m : Module}
    (h : ModulesLinked p modules builds seen) (habsolute : Specifier.isAbsolute path = true)
    (hid : m.id = path) (hbuild : ∃ calls, buildFile p path = .ok (build, calls))
    (hlinks : Links p path build.imports m.dependencies seen) :
    ModulesLinked p (modules.insert path m) (builds.insert path build) seen := by
  constructor
  case named => exact h.named.insert hid
  case entry =>
    obtain ⟨m', hfind, hentries⟩ := h.entry
    refine ⟨m', ?_, hentries⟩
    rw [OrderedMap.find?_insert, if_neg (ModuleId.ne_entry_of_absolute habsolute).symm, hfind]
  case built =>
    intro other build' hfind
    by_cases hother : other = path
    · subst hother
      rw [OrderedMap.find?_insert, if_pos rfl] at hfind
      cases hfind
      exact ⟨hbuild, m, by simp, hlinks⟩
    · rw [OrderedMap.find?_insert, if_neg hother] at hfind
      rw [OrderedMap.find?_insert, if_neg hother]
      exact h.built other build' hfind
  case kinds =>
    intro id m' hfind
    rw [OrderedMap.mem_keys_iff]
    by_cases hid : id = path
    · exact .inr (.inl (by simp [OrderedMap.contains, hid]))
    · rw [OrderedMap.find?_insert, if_neg hid] at hfind
      rcases h.kinds id m' hfind with hentry | hkeys | hhost
      · exact .inl hentry
      · exact .inr (.inl (OrderedMap.contains_insert (OrderedMap.mem_keys_iff.1 hkeys)))
      · exact .inr (.inr hhost)

/-- The targets of the imports of a known file are met. -/
theorem Invariant.met_of_imports (hrooted : p.Rooted) (hinv : Invariant p pending found)
    {path : String} {build : BuiltFile} (hknown : path ∈ knownFiles pending found)
    (hbuild : ∃ calls, buildFile p path = .ok (build, calls)) :
    ∀ specifier ∈ build.imports, ∀ target, p.resolve path specifier = .ok target →
      Met p (moduleId target) := by
  intro specifier hmem target hresolve
  obtain ⟨calls, hbuild⟩ := hbuild
  exact .target (hinv.reached_of_known hrooted hknown) ⟨build, calls, hbuild, hmem, hresolve⟩

/-- A file that is being linked is not among the built files. -/
theorem Invariant.keys_insert_pending {path : String} (hinv : Invariant p (path :: pending) found)
    (build : BuiltFile) : (found.builds.insert path build).keys = found.builds.keys ++ [path] := by
  have hnew : path ∉ found.builds.keys := by
    have hnodup := hinv.files.nodup
    simp only [knownFiles, List.append_assoc, List.cons_append] at hnodup
    exact fun hmem => (List.nodup_append.1 hnodup).2.2 path hmem path (by simp) rfl
  rw [OrderedMap.keys_insert, if_neg hnew]

/-- Linking a file moves it from the files that are being linked to the built ones. -/
theorem Invariant.linkFile (hrooted : p.Rooted) {path : String} {build : BuiltFile}
    (hinv : Invariant p (path :: pending) found)
    (hbuild : ∃ calls, buildFile p path = .ok (build, calls))
    (h : Walk.linkFile p path build found = .ok found') :
    Invariant p pending found' ∧ found'.builds.keys = found.builds.keys ++ [path] := by
  have hknown : path ∈ knownFiles (path :: pending) found := by simp [knownFiles]
  have habsolute := hinv.isAbsolute_of_known hrooted hknown
  have hmet := hinv.met_of_imports hrooted hknown hbuild
  simp only [Walk.linkFile] at h
  split at h
  · simp at h
  · rename_i dependencies found₁ hfollow
    cases h
    have hnone : Links p path [] OrderedMap.empty found.seen := ⟨by simp, by simp⟩
    obtain ⟨hinv₁, hlinks, hbuilds⟩ := Invariant.follow hrooted hinv hmet hnone hfollow
    have hkeys := hinv₁.keys_insert_pending build
    have hfiles : knownFiles pending { found₁ with
        modules := found₁.modules.insert path ⟨path, build.code, dependencies⟩
        builds := found₁.builds.insert path build } = knownFiles (path :: pending) found₁ := by
      simp [knownFiles, hkeys]
    refine ⟨⟨hfiles ▸ hinv₁.files, hinv₁.packages,
      hinv₁.modules.insert habsolute rfl hbuild (by simpa using hlinks), hinv₁.entry_seen, hinv₁.met,
      ?_, ?_⟩, by rw [hkeys, hbuilds]⟩
    · intro id hmem
      rw [hfiles]
      exact (hinv₁.accounted id hmem).mono (List.Subset.refl _) (List.Subset.refl _)
        fun _ => OrderedMap.contains_insert
    · rw [hinv₁.calls]
      simp [hkeys]

/-! ## Generations -/

/-- Linking the files of a generation leaves none to be linked. -/
theorem Invariant.linkFiles (hrooted : p.Rooted) {files : List (String × BuiltFile)}
    (hinv : Invariant p (files.map Prod.fst) found)
    (hbuilt : ∀ file ∈ files, ∃ calls, buildFile p file.1 = .ok (file.2, calls))
    (h : Walk.linkFiles p found files = .ok found') :
    Invariant p [] found' ∧ found'.builds.keys = found.builds.keys ++ files.map Prod.fst := by
  induction files generalizing found with
  | nil =>
      cases h
      exact ⟨hinv, by simp⟩
  | cons file files ih =>
      simp only [Walk.linkFiles] at h
      split at h
      · simp at h
      · rename_i found₁ hlink
        obtain ⟨hinv₁, hkeys₁⟩ := Invariant.linkFile hrooted hinv
          (hbuilt file List.mem_cons_self) hlink
        obtain ⟨hinv', hkeys'⟩ := ih hinv₁
          (fun other hmem => hbuilt other (List.mem_cons_of_mem _ hmem)) h
        refine ⟨hinv', ?_⟩
        rw [hkeys', hkeys₁, List.map_cons, List.append_assoc, List.singleton_append]

/-- The files of a generation are taken from those that wait, and their requests are made. -/
theorem Invariant.take (hinv : Invariant p [] found) :
    Invariant p found.waiting { found with
      waiting := []
      calls := found.calls ++ found.waiting.filterMap (fileCall p) } := by
  have hfiles : knownFiles found.waiting { found with
      waiting := []
      calls := found.calls ++ found.waiting.filterMap (fileCall p) } = knownFiles [] found := by
    simp [knownFiles]
  refine ⟨hfiles ▸ hinv.files, hinv.packages, hinv.modules, hinv.entry_seen, hinv.met, ?_, ?_⟩
  · intro id hmem
    rw [hfiles]
    exact hinv.accounted id hmem
  · rw [hinv.calls]
    simp

/-- There are at most as many built files as sources. -/
theorem Invariant.size_le (hinv : Invariant p pending found) :
    found.builds.size ≤ p.sources.size := by
  have hsources : found.builds.keys ⊆ p.sources.keys := fun path hmem =>
    OrderedMap.mem_keys_iff.2 (hinv.files.source path (mem_known_of_built hmem))
  have hlength := (found.builds.distinctKeys.subperm hsources).length_le
  rwa [← OrderedMap.length_keys, ← OrderedMap.length_keys]

/-- One round of a walk: the waiting files are built, and then linked. -/
def round (p : Project) (found : Found) : Except CompileFailure Found :=
  match buildFiles p found.waiting with
  | .error e => .error e
  | .ok (files, calls) =>
      linkFiles p { found with waiting := [], calls := found.calls ++ calls } files

/-- A walk is a round and a walk, unless no file waits. -/
theorem generations_succ (rounds : Nat) (found : Found) :
    generations p (rounds + 1) found =
      if found.waiting = [] then .ok found
      else (round p found).bind (generations p rounds) := by
  rw [generations, round]
  split
  · rfl
  · cases hfiles : buildFiles p found.waiting with
    | error e => rfl
    | ok built =>
        obtain ⟨files, calls⟩ := built
        cases hlink : linkFiles p { found with waiting := [], calls := found.calls ++ calls } files
        · simp only [hlink, Except.bind]
        · simp only [hlink, Except.bind]

/-- What a round that succeeds has built and linked. -/
theorem round_eq_ok (h : round p found = .ok found') :
    ∃ files, files.map Prod.fst = found.waiting ∧
      (∀ file ∈ files, ∃ calls, buildFile p file.1 = .ok (file.2, calls)) ∧
        linkFiles p { found with
          waiting := []
          calls := found.calls ++ found.waiting.filterMap (fileCall p) } files = .ok found' := by
  unfold round at h
  split at h
  · simp at h
  · rename_i files calls hfiles
    obtain ⟨hpaths, hbuilt, rfl⟩ := buildFiles_eq_ok hfiles
    exact ⟨files, hpaths, hbuilt, h⟩

/-- A round builds all files that wait. -/
theorem Invariant.round (hrooted : p.Rooted) (hinv : Invariant p [] found)
    (h : Walk.round p found = .ok found') :
    Invariant p [] found' ∧ found'.builds.keys = found.builds.keys ++ found.waiting := by
  obtain ⟨files, hpaths, hbuilt, hlink⟩ := round_eq_ok h
  have htake := hinv.take
  rw [← hpaths] at htake hlink
  obtain ⟨hinv', hkeys⟩ := Invariant.linkFiles hrooted htake hbuilt hlink
  exact ⟨hinv', by rw [hkeys, hpaths]⟩

/-- A round that is needed builds more files than there were. -/
theorem Invariant.size_lt_of_round (hrooted : p.Rooted) (hinv : Invariant p [] found)
    (hwaiting : found.waiting ≠ []) (h : Walk.round p found = .ok found') :
    found.builds.size < found'.builds.size := by
  have hlength := congrArg List.length (hinv.round hrooted h).2
  rw [List.length_append, OrderedMap.length_keys, OrderedMap.length_keys] at hlength
  have := List.length_pos_of_ne_nil hwaiting
  omega

/-- At the end of a walk no file is being linked or waits. -/
theorem Invariant.generations (hrooted : p.Rooted) {rounds : Nat} (hinv : Invariant p [] found)
    (hrounds : p.sources.size < rounds + found.builds.size)
    (h : Walk.generations p rounds found = .ok found') :
    Invariant p [] found' ∧ found'.waiting = [] := by
  -- Every round builds a file, so that the rounds last until all sources are built.
  induction rounds generalizing found with
  | zero =>
      have := hinv.size_le
      omega
  | succ rounds ih =>
      rw [generations_succ] at h
      split at h
      · rename_i hwaiting
        cases h
        exact ⟨hinv, hwaiting⟩
      · rename_i hwaiting
        cases hround : Walk.round p found with
        | error e =>
            rw [hround] at h
            exact nomatch h
        | ok found₁ =>
            rw [hround] at h
            have hsize := hinv.size_lt_of_round hrooted hwaiting hround
            exact ih (hinv.round hrooted hround).1 (by omega) h

/-- A walk that has a round for every source does not depend on the number of its rounds. -/
theorem Invariant.generations_rounds (hrooted : p.Rooted) (hinv : Invariant p [] found)
    {rounds more : Nat} (hrounds : p.sources.size < rounds + found.builds.size)
    (hmore : p.sources.size < more + found.builds.size) :
    Walk.generations p rounds found = Walk.generations p more found := by
  have hsize := hinv.size_le
  induction rounds generalizing more found with
  | zero => omega
  | succ rounds ih =>
      cases more with
      | zero => omega
      | succ more =>
          rw [generations_succ, generations_succ]
          by_cases hwaiting : found.waiting = []
          · rw [if_pos hwaiting, if_pos hwaiting]
          · rw [if_neg hwaiting, if_neg hwaiting]
            cases hround : Walk.round p found with
            | error e => rfl
            | ok found₁ =>
                have hgrow := hinv.size_lt_of_round hrooted hwaiting hround
                obtain ⟨hinv₁, _⟩ := hinv.round hrooted hround
                exact ih hinv₁ (by omega) (by omega) hinv₁.size_le

end Walk
end VideoBundle
