import Mathlib.Logic.Function.Iterate
import VideoBundle.Proofs.Walk.Generations

/-!
# The order of a walk

A walk goes breadth first: its files come in the order in which one meets them when the entry file and
then the imports of all files are read in turn, and so do the installed packages.  This order is
computed here without the state of a walk, by reading the files that are known again and again until
no new ones are met.

Main results:

- `Recorded.meet`: meeting a target adds it to the record, unless it is there.
- `Recorded.generations`: at the end of a walk the built files and the packages come in this order.
-/

namespace VideoBundle

namespace ImportTarget

/-- The file to which an import leads. -/
def file? : ImportTarget → Option String
  | .file path => some path
  | .host _ | .package _ => none

/-- The installed package to which an import leads. -/
def package? : ImportTarget → Option String
  | .package specifier => some specifier
  | .host _ | .file _ => none

end ImportTarget

namespace Walk

variable {p : Project} {pending : List String} {found found' : Found}

/-! ## Breadth-first order -/

/-- What the imports of a file lead to, in order. -/
def importTargets (p : Project) (path : String) : List ImportTarget :=
  match buildFile p path with
  | .ok (build, _) => build.imports.filterMap fun specifier => (p.resolve path specifier).toOption
  | .error _ => []

/-- The entry file and the files to which targets lead, each where it comes first. -/
def filesOf (p : Project) (targets : List ImportTarget) : List String :=
  distinct (p.entry :: targets.filterMap ImportTarget.file?)

/-- The installed packages to which targets lead, each where it comes first. -/
def packagesOf (targets : List ImportTarget) : List String :=
  distinct (targets.filterMap ImportTarget.package?)

/-- The files that one knows after reading the given ones. -/
def readOn (p : Project) (files : List String) : List String :=
  filesOf p (files.flatMap (importTargets p))

/-- The files of a project in breadth-first order. -/
def filesInOrder (p : Project) : List String :=
  (readOn p)^[p.sources.size + 1] [p.entry]

/-- The installed packages of a project in the order of the imports that lead to them. -/
def packagesInOrder (p : Project) : List String :=
  packagesOf ((filesInOrder p).flatMap (importTargets p))

/-! ## What a walk records -/

/-- A walk that has met some targets in turn knows the files and packages to which they lead, in
order, and has written the code of every built file. -/
structure Recorded (p : Project) (pending : List String) (targets : List ImportTarget)
    (found : Found) : Prop where
  files : knownFiles pending found = filesOf p targets
  packages : found.packages = packagesOf targets
  codes : ∀ path build, found.builds.find? path = some build →
    ∃ m, found.modules.find? path = some m ∧ m.code = build.code

/-- Nothing was met before the walk begins. -/
theorem Recorded.start : Recorded p [] [] (start p) :=
  ⟨rfl, rfl, fun _ _ h => nomatch h⟩

/-- A further import adds its file, if it has one that is new. -/
theorem filesOf_concat (targets : List ImportTarget) (target : ImportTarget) :
    filesOf p (targets ++ [target]) =
      match target.file? with
      | none => filesOf p targets
      | some path =>
          if path ∈ filesOf p targets then filesOf p targets else filesOf p targets ++ [path] := by
  cases htarget : target.file? with
  | none => simp [filesOf, htarget]
  | some path =>
      simp only [filesOf, List.filterMap_append, List.filterMap_cons, List.filterMap_nil, htarget,
        ← List.cons_append, distinct_concat, mem_distinct]

theorem packagesOf_concat (targets : List ImportTarget) (target : ImportTarget) :
    packagesOf (targets ++ [target]) =
      match target.package? with
      | none => packagesOf targets
      | some specifier =>
          if specifier ∈ packagesOf targets then packagesOf targets
          else packagesOf targets ++ [specifier] := by
  cases htarget : target.package? with
  | none => simp [packagesOf, htarget]
  | some specifier =>
      simp only [packagesOf, List.filterMap_append, List.filterMap_cons, List.filterMap_nil, htarget,
        distinct_concat, mem_distinct]

/-- A target that was met before is in the record already. -/
theorem Recorded.of_seen {targets : List ImportTarget} (hrec : Recorded p pending targets found)
    (hrooted : p.Rooted) (hinv : Invariant p pending found) {target : ImportTarget}
    (hfile : ∀ path, target = .file path → p.sources.contains path = true)
    (hseen : moduleId target ∈ found.seen) : Recorded p pending (targets ++ [target]) found := by
  have hfiles : filesOf p (targets ++ [target]) = filesOf p targets := by
    rw [filesOf_concat]
    cases target with
    | host package => rfl
    | package specifier => rfl
    | file path =>
        have habsolute := hrooted.absolute path (hfile path rfl)
        have hknown := hinv.mem_known_of_seen habsolute hseen
        exact if_pos (hrec.files ▸ hknown)
  have hpackages : packagesOf (targets ++ [target]) = packagesOf targets := by
    rw [packagesOf_concat]
    cases target with
    | host package => rfl
    | file path => rfl
    | package specifier =>
        have hknown := hinv.mem_packages_of_seen hrooted hseen
        exact if_pos (hrec.packages ▸ hknown)
  exact ⟨hrec.files.trans hfiles.symm, hrec.packages.trans hpackages.symm, hrec.codes⟩

/-- Meeting a target adds it to the record, unless it is there. -/
theorem Recorded.meet {targets : List ImportTarget} (hrec : Recorded p pending targets found)
    (hrooted : p.Rooted) (hinv : Invariant p pending found) {target : ImportTarget}
    (hfile : ∀ path, target = .file path → p.sources.contains path = true)
    (h : Walk.meet p target found = .ok found') :
    Recorded p pending (targets ++ [target]) found' := by
  rcases meet_eq_ok h with ⟨hseen, rfl⟩ | ⟨hnew, hstep⟩
  · exact hrec.of_seen hrooted hinv hfile hseen
  · rcases hstep with ⟨package, modules, rfl, hadd, rfl⟩ | ⟨specifier, rfl, rfl⟩ | ⟨path, rfl, rfl⟩
    · refine ⟨?_, ?_, ?_⟩
      · exact hrec.files.trans (filesOf_concat targets (.host package)).symm
      · exact hrec.packages.trans (packagesOf_concat targets (.host package)).symm
      · intro path build hfind
        obtain ⟨m, hmodule, hcode⟩ := hrec.codes path build hfind
        have hkey := OrderedMap.mem_keys_iff.2 (OrderedMap.contains_of_find? hfind)
        have habsolute := hinv.isAbsolute_of_known hrooted (mem_known_of_built hkey)
        have hother := (addHost_find? hadd).2 path (ModuleId.host_ne_of_absolute habsolute _).symm
        exact ⟨m, hother.trans hmodule, hcode⟩
    · refine ⟨?_, ?_, hrec.codes⟩
      · exact hrec.files.trans (filesOf_concat targets (.package specifier)).symm
      · have hunknown : specifier ∉ packagesOf targets := by
          rw [← hrec.packages]
          exact fun hmem => hnew (hinv.packages.seen specifier hmem)
        have hconcat := packagesOf_concat targets (.package specifier)
        simp only [ImportTarget.package?, if_neg hunknown] at hconcat
        rw [hconcat, ← hrec.packages]
    · refine ⟨?_, ?_, hrec.codes⟩
      · have hunknown : path ∉ filesOf p targets := by
          rw [← hrec.files]
          exact fun hmem => hnew (hinv.files.seen hmem)
        have hconcat := filesOf_concat (p := p) targets (.file path)
        simp only [ImportTarget.file?, if_neg hunknown] at hconcat
        rw [hconcat, ← hrec.files]
        simp [knownFiles]
      · exact hrec.packages.trans (packagesOf_concat targets (.file path)).symm

/-- Following imports adds their targets to the record. -/
theorem Recorded.follow {targets : List ImportTarget} (hrec : Recorded p pending targets found)
    (hrooted : p.Rooted) {path : String} {specifiers : List String}
    {dependencies dependencies' : OrderedMap String String} (hinv : Invariant p pending found)
    (hmet : ∀ specifier ∈ specifiers, ∀ target, p.resolve path specifier = .ok target →
      Met p (moduleId target))
    (h : Walk.follow p path dependencies found specifiers = .ok (dependencies', found')) :
    Recorded p pending
      (targets ++ specifiers.filterMap fun specifier => (p.resolve path specifier).toOption)
      found' := by
  induction specifiers generalizing targets dependencies found with
  | nil =>
      cases h
      simpa using hrec
  | cons specifier specifiers ih =>
      simp only [Walk.follow] at h
      split at h
      · simp at h
      · rename_i target hresolve
        split at h
        · simp at h
        · rename_i found₁ hmeet
          have hfile : ∀ file, target = .file file → p.sources.contains file = true :=
            fun file hfile => contains_of_resolve (hfile ▸ hresolve)
          obtain ⟨hinv₁, _⟩ := hinv.meet hrooted
            (hmet specifier List.mem_cons_self target hresolve) hfile hmeet
          have hrest := ih (hrec.meet hrooted hinv hfile hmeet) hinv₁
            (fun other hother => hmet other (List.mem_cons_of_mem _ hother)) h
          have hoption : (p.resolve path specifier).toOption = some target := by
            rw [Project.resolve, hresolve]
            rfl
          simpa [hoption] using hrest

/-- Linking a file adds the targets of its imports to the record. -/
theorem Recorded.linkFile {targets : List ImportTarget} {path : String} {build : BuiltFile}
    (hrec : Recorded p (path :: pending) targets found) (hrooted : p.Rooted)
    (hinv : Invariant p (path :: pending) found)
    (hbuild : ∃ calls, buildFile p path = .ok (build, calls))
    (h : Walk.linkFile p path build found = .ok found') :
    Recorded p pending (targets ++ importTargets p path) found' := by
  have hknown : path ∈ knownFiles (path :: pending) found := by simp [knownFiles]
  have hmet := hinv.met_of_imports hrooted hknown hbuild
  have htargets : importTargets p path =
      build.imports.filterMap fun specifier => (p.resolve path specifier).toOption := by
    obtain ⟨calls, hbuild⟩ := hbuild
    simp only [importTargets, hbuild]
  simp only [Walk.linkFile] at h
  split at h
  · simp at h
  · rename_i dependencies found₁ hfollow
    cases h
    have hnone : Links p path [] OrderedMap.empty found.seen := ⟨by simp, by simp⟩
    obtain ⟨hinv₁, _⟩ := Invariant.follow hrooted hinv hmet hnone hfollow
    have hrec₁ := hrec.follow hrooted hinv hmet hfollow
    rw [← htargets] at hrec₁
    refine ⟨?_, hrec₁.packages, ?_⟩
    · rw [← hrec₁.files]
      simp [knownFiles, hinv₁.keys_insert_pending build]
    · intro other build' hfind
      by_cases hother : other = path
      · subst hother
        rw [OrderedMap.find?_insert, if_pos rfl] at hfind
        cases hfind
        exact ⟨_, by rw [OrderedMap.find?_insert, if_pos rfl], rfl⟩
      · rw [OrderedMap.find?_insert, if_neg hother] at hfind
        obtain ⟨m, hmodule, hcode⟩ := hrec₁.codes other build' hfind
        exact ⟨m, by rw [OrderedMap.find?_insert, if_neg hother, hmodule], hcode⟩

/-- Linking files adds the targets of all their imports to the record. -/
theorem Recorded.linkFiles {targets : List ImportTarget} {files : List (String × BuiltFile)}
    (hrec : Recorded p (files.map Prod.fst) targets found) (hrooted : p.Rooted)
    (hinv : Invariant p (files.map Prod.fst) found)
    (hbuilt : ∀ file ∈ files, ∃ calls, buildFile p file.1 = .ok (file.2, calls))
    (h : Walk.linkFiles p found files = .ok found') :
    Recorded p [] (targets ++ (files.map Prod.fst).flatMap (importTargets p)) found' := by
  induction files generalizing targets found with
  | nil =>
      cases h
      simpa using hrec
  | cons file files ih =>
      simp only [Walk.linkFiles] at h
      split at h
      · simp at h
      · rename_i found₁ hlink
        have hbuild := hbuilt file List.mem_cons_self
        obtain ⟨hinv₁, _⟩ := Invariant.linkFile hrooted hinv hbuild hlink
        have hrest := ih (hrec.linkFile hrooted hinv hbuild hlink) hinv₁
          (fun other hmem => hbuilt other (List.mem_cons_of_mem _ hmem)) h
        simpa using hrest

/-- The record of a walk between two rounds: the targets of the imports of all built files. -/
abbrev RecordedBuilds (p : Project) (found : Found) : Prop :=
  Recorded p [] (found.builds.keys.flatMap (importTargets p)) found

/-- A round adds the targets of the imports of all files that waited to the record. -/
theorem Recorded.round (hrec : RecordedBuilds p found) (hrooted : p.Rooted)
    (hinv : Invariant p [] found) (h : Walk.round p found = .ok found') :
    RecordedBuilds p found' := by
  obtain ⟨files, hpaths, hbuilt, hlink⟩ := round_eq_ok h
  have htake := hinv.take
  have hkeys := (hinv.round hrooted h).2
  have hrecTake : Recorded p found.waiting (found.builds.keys.flatMap (importTargets p)) { found with
      waiting := []
      calls := found.calls ++ found.waiting.filterMap (fileCall p) } :=
    ⟨by simpa [knownFiles] using hrec.files, hrec.packages, hrec.codes⟩
  rw [← hpaths] at htake hlink hrecTake
  have hlinked := hrecTake.linkFiles hrooted htake hbuilt hlink
  rwa [hpaths, ← List.flatMap_append, ← hkeys] at hlinked

/-- Between two rounds, reading the known files gives the built files and those that wait. -/
theorem Recorded.readOn_builds (hrec : RecordedBuilds p found) :
    readOn p found.builds.keys = found.builds.keys ++ found.waiting := by
  have hfiles := hrec.files
  simp only [knownFiles, List.append_nil] at hfiles
  exact hfiles.symm

/-- A walk builds its files in breadth-first order. -/
theorem Recorded.generations (hrooted : p.Rooted) {rounds : Nat} (hrec : RecordedBuilds p found)
    (hinv : Invariant p [] found) (hrounds : p.sources.size < rounds + found.builds.size)
    (h : Walk.generations p rounds found = .ok found') :
    RecordedBuilds p found' ∧
      found'.builds.keys = (readOn p)^[rounds] (found.builds.keys ++ found.waiting) := by
  induction rounds generalizing found with
  | zero =>
      have := hinv.size_le
      omega
  | succ rounds ih =>
      rw [generations_succ] at h
      split at h
      · rename_i hwaiting
        obtain rfl : found = found' := by simpa using h
        have hfixed : readOn p found.builds.keys = found.builds.keys := by
          rw [hrec.readOn_builds, hwaiting, List.append_nil]
        rw [hwaiting, List.append_nil, Function.iterate_fixed hfixed]
        exact ⟨hrec, rfl⟩
      · rename_i hwaiting
        cases hround : Walk.round p found with
        | error e =>
            rw [hround] at h
            exact nomatch h
        | ok found₁ =>
            rw [hround] at h
            have hsize := hinv.size_lt_of_round hrooted hwaiting hround
            obtain ⟨hinv₁, hkeys⟩ := hinv.round hrooted hround
            have hrec₁ := hrec.round hrooted hinv hround
            obtain ⟨hrec', horder⟩ := ih hrec₁ hinv₁ (by omega) h
            refine ⟨hrec', ?_⟩
            rw [horder, Function.iterate_succ_apply, ← hkeys, ← hrec₁.readOn_builds]

/-- The built files and the packages of a finished walk come in breadth-first order. -/
theorem Recorded.run (hrooted : p.Rooted)
    (h : Walk.generations p (p.sources.size + 1) (Walk.start p) = .ok found) :
    RecordedBuilds p found ∧ found.builds.keys = filesInOrder p ∧
      found.packages = packagesInOrder p := by
  obtain ⟨hrec, horder⟩ := Recorded.generations hrooted .start (.start hrooted) (by omega) h
  have hfiles : found.builds.keys = filesInOrder p := horder
  refine ⟨hrec, hfiles, ?_⟩
  rw [hrec.packages, hfiles, packagesInOrder]

end Walk
end VideoBundle
