import VideoBundle.Compile.Walk
import VideoBundle.Proofs.Module.Identifiers

/-!
# Reached files

Which files belong to a project, said without a walk: the entry file does, and so does every file to
which an import of such a file leads.  The walk meets these files, and the host packages and installed
packages that they import.

Main results:

- `Met.reachedFile`: a file that is met is reached.
- `buildFile_calls`: building a file makes one request if it is a source file, and none otherwise.
- `buildFiles_eq_ok`: building files one after another builds each of them.
-/

namespace VideoBundle
namespace Walk

variable {p : Project}

/-- The sources and the entry file of a project have absolute paths, and the entry file is one of the
sources. -/
structure Project.Rooted (p : Project) : Prop where
  absolute : ∀ path, p.sources.contains path = true → Specifier.isAbsolute path = true
  entry : p.sources.contains p.entry = true

/-- What a specifier in a file of a project leads to. -/
def Project.resolve (p : Project) (path specifier : String) : Except Unresolved ImportTarget :=
  Specifier.resolve p.sources.contains specifier (some path) (some p.entry)

/-- A file is built with an import that leads to a target. -/
def Imports (p : Project) (path specifier : String) (target : ImportTarget) : Prop :=
  ∃ build calls, buildFile p path = .ok (build, calls) ∧ specifier ∈ build.imports ∧
    p.resolve path specifier = .ok target

/-- The least set of files with the entry file and every file to which an import in the set leads. -/
inductive ReachedFile (p : Project) : String → Prop
  | entry : ReachedFile p p.entry
  | step {path specifier target : String} (h : ReachedFile p path)
      (himport : Imports p path specifier (.file target)) : ReachedFile p target

/-- What the walk meets: the two entry modules, and every target of an import in a reached file. -/
inductive Met (p : Project) : String → Prop
  | entryModule : Met p ModuleId.entry
  | entryFile : Met p p.entry
  | target {path specifier : String} {target : ImportTarget} (h : ReachedFile p path)
      (himport : Imports p path specifier target) : Met p (moduleId target)

/-- The request that building a file makes, if it is a source file. -/
def fileCall (p : Project) (path : String) : Option BundlerCall :=
  if (Path.loader path).isSource then
    (p.sources.find? path).map (BundlerCall.file ·.toText (Path.loader path) path)
  else none

/-! ## Resolving -/

/-- An import that leads to a file leads to a source. -/
theorem contains_of_resolve {path specifier target : String}
    (h : p.resolve path specifier = .ok (.file target)) : p.sources.contains target = true := by
  unfold Project.resolve Specifier.resolve at h
  split at h
  · simp at h
  · split at h
    · dsimp only at h
      split at h
      · rename_i hlocate
        cases h
        exact Specifier.locate_isFile hlocate
      · simp at h
    · simp at h

/-- A file that is met is reached. -/
theorem Met.reachedFile {id : String} (h : Met p id) (habsolute : Specifier.isAbsolute id = true) :
    ReachedFile p id := by
  cases h with
  | entryModule => exact absurd habsolute (by decide)
  | entryFile => exact .entry
  | @target path specifier target hpath himport =>
      cases target with
      | host package => exact absurd rfl (ModuleId.host_ne_of_absolute habsolute _)
      | file target => exact .step hpath himport
      | package specifier => exact absurd rfl (ModuleId.package_ne_of_absolute habsolute _)

/-- A reached file is a source. -/
theorem ReachedFile.contains (hrooted : p.Rooted) {path : String} (h : ReachedFile p path) :
    p.sources.contains path = true := by
  cases h with
  | entry => exact hrooted.entry
  | step _ himport =>
      obtain ⟨_, _, _, _, hresolve⟩ := himport
      exact contains_of_resolve hresolve

/-! ## Building -/

/-- Building a file makes one request if it is a source file, and none otherwise. -/
theorem buildFile_calls {path : String} {build : BuiltFile} {calls : List BundlerCall}
    (h : buildFile p path = .ok (build, calls)) : calls = (fileCall p path).toList := by
  unfold buildFile at h
  cases hsource : p.sources.find? path with
  | none => simp [hsource] at h
  | some source =>
      simp only [hsource] at h
      cases hloader : Path.loader path with
      | json =>
          simp only [hloader] at h
          split at h
          · cases h
            simp [fileCall, hloader, Loader.isSource]
          · simp at h
      | css | dataUrl =>
          simp only [hloader] at h
          cases h
          simp [fileCall, hloader, Loader.isSource]
      | tsx | ts | jsx | js =>
          simp only [hloader] at h
          split at h
          · cases h
            simp [fileCall, hloader, hsource, Loader.isSource]
          · simp at h
          · simp at h

/-- Building files one after another builds each of them. -/
theorem buildFiles_eq_ok {paths : List String} {files : List (String × BuiltFile)}
    {calls : List BundlerCall} (h : buildFiles p paths = .ok (files, calls)) :
    files.map Prod.fst = paths ∧
      (∀ file ∈ files, ∃ calls, buildFile p file.1 = .ok (file.2, calls)) ∧
        calls = paths.filterMap (fileCall p) := by
  induction paths generalizing files calls with
  | nil =>
      cases h
      exact ⟨rfl, by simp, rfl⟩
  | cons path paths ih =>
      simp only [buildFiles] at h
      split at h
      · simp at h
      · rename_i build calls' hbuild
        split at h
        · simp at h
        · rename_i files' more hfiles
          cases h
          obtain ⟨hpaths, hbuilt, hmore⟩ := ih hfiles
          refine ⟨by simp [hpaths], ?_, ?_⟩
          · intro file hmem
            rcases List.mem_cons.1 hmem with rfl | hmem
            · exact ⟨calls', hbuild⟩
            · exact hbuilt file hmem
          · rw [buildFile_calls hbuild, hmore, List.filterMap_cons]
            cases fileCall p path <;> rfl

end Walk
end VideoBundle
