import VideoBundle.HostPackage.Basic
import VideoBundle.Path.Loader

/-!
# Import specifiers

What an import leads to.  The names of host packages come first.  A specifier that starts with a dot
or a slash is a path: absolute, or relative to the directory of the importing file; it has to hit a
file, perhaps after an extension or the name of an index file is added.  Every other specifier names
an installed package.

Main results:

- `locate_isFile`: a located path is the path of a file.
- `resolve_host`: the names of host packages lead to the host, whatever the files.
-/

namespace VideoBundle

/-- What an import leads to. -/
inductive ImportTarget where
  | host (package : HostPackage)
  | file (path : String)
  | package (specifier : String)
deriving DecidableEq, Repr

/-- A path specifier that hits no file. -/
structure Unresolved where
  specifier : String
  importer : String
deriving DecidableEq, Repr

/-- The wording for a specifier that hits no file. -/
def Unresolved.message (u : Unresolved) : String :=
  "Cannot resolve import \"" ++ u.specifier ++ "\" from \"" ++ u.importer ++ "\"."

namespace Specifier

/-- The name under which a text without a path imports. -/
def unnamedImporter : String := "<stdin>"

/-- Whether a specifier is a path. -/
def isPath (specifier : String) : Bool :=
  match specifier.toList with
  | c :: _ => c = '.' || c = '/'
  | [] => false

/-- Whether a specifier is an absolute path. -/
def isAbsolute (specifier : String) : Bool :=
  specifier.toList.head? = some '/'

/-- The canonical path that a specifier names before an extension is added. -/
def base? (specifier importer : String) : Option String :=
  if isAbsolute specifier then Path.canonical? specifier
  else Path.canonical? (Path.join (Path.parent importer) specifier)

/-- The paths that are tried for a base path, in order. -/
def candidates (base : String) : List String :=
  if Path.hasSupportedExtension base then [base]
  else
    base :: (Path.supportedExtensions.map (base ++ ·) ++
      Path.supportedExtensions.map fun extension => Path.join base ("index" ++ extension))

/-- The file that a path specifier hits. -/
def locate (isFile : String → Bool) (specifier importer : String) : Option String :=
  (base? specifier importer).bind fun base => (candidates base).find? isFile

/-- A located path is the path of a file. -/
theorem locate_isFile {isFile : String → Bool} {specifier importer path : String}
    (h : locate isFile specifier importer = some path) : isFile path = true := by
  obtain ⟨base, _, hfind⟩ := Option.bind_eq_some_iff.1 h
  exact List.find?_some hfind

/-- The path of the importing file; texts without a path import from the entry file, or from the
root when there is none. -/
def importingFile (importer entry : Option String) : String :=
  match importer with
  | some path => if path = "" ∨ path = unnamedImporter then entryFile else path
  | none => entryFile
where
  entryFile : String :=
    match entry with
    | some path => if path = "" then "/" else path
    | none => "/"

/-- A file with an absolute path imports for itself. -/
theorem importingFile_of_absolute {path : String} {entry : Option String}
    (habsolute : isAbsolute path = true) : importingFile (some path) entry = path := by
  have hnamed : ¬(path = "" ∨ path = unnamedImporter) := by
    rintro (rfl | rfl)
    · exact absurd habsolute (by decide)
    · exact absurd habsolute (by decide)
  rw [importingFile, if_neg hnamed]

/-- The name of a host package is no path. -/
theorem not_isPath_host (package : HostPackage) : isPath package.specifier = false := by
  cases package <;> decide

/-- What a specifier leads to. -/
def resolve (isFile : String → Bool) (specifier : String) (importer entry : Option String) :
    Except Unresolved ImportTarget :=
  match HostPackage.ofSpecifier? specifier with
  | some package => .ok (.host package)
  | none =>
      if isPath specifier then
        let importer := importingFile importer entry
        match locate isFile specifier importer with
        | some path => .ok (.file path)
        | none => .error ⟨specifier, importer⟩
      else .ok (.package specifier)

/-- The names of host packages lead to the host, whatever the files. -/
theorem resolve_host (isFile : String → Bool) (package : HostPackage)
    (importer entry : Option String) :
    resolve isFile package.specifier importer entry = .ok (.host package) := by
  simp [resolve]

end Specifier
end VideoBundle
