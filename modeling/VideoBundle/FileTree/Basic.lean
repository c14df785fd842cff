import VideoBundle.Text.Lines
import VideoBundle.Text.Quoted

/-!
# File trees

A file tree is a directory as one finds it on a disk.  Names in a directory are kept in ascending order,
so that a walk through the tree meets the files in the order of their paths, compared name by name.
A disk says what stands at a path.
-/

namespace VideoBundle

/-- A path on a disk: its root, which is empty for a relative path, and its names. -/
structure FilePath where
  root : String
  names : List String
deriving DecidableEq, Repr

namespace FilePath

/-- The path that a text writes.  Empty names and single dots say nothing; two dots stay. -/
def ofText (text : String) : FilePath where
  root :=
    match text.toList with
    | '/' :: '/' :: '/' :: _ => "/"
    | '/' :: '/' :: _ => "//"
    | '/' :: _ => "/"
    | _ => ""
  names := ((Text.splitWhere (· = '/') text.toList).map String.ofList).filter fun name =>
    name != "" && name != "."

/-- The text of a path. -/
def render (p : FilePath) : String :=
  if p.root = "" ∧ p.names = [] then "." else p.root ++ "/".intercalate p.names

/-- The path without its last name. -/
def directory (p : FilePath) : FilePath := { p with names := p.names.dropLast }

/-- Take one more name: two dots lead back, except at the start of a relative path. -/
def addName (p : FilePath) (name : String) : FilePath :=
  if name = ".." ∧ p.names.getLast? ≠ some ".." ∧ (p.names ≠ [] ∨ p.root ≠ "") then p.directory
  else { p with names := p.names ++ [name] }

/-- The path without detours through two dots. -/
def plain (p : FilePath) : FilePath := p.names.foldl addName { p with names := [] }

end FilePath

/-- A file with its bytes, or a directory with its entries. -/
inductive FileTree where
  | file (bytes : List UInt8)
  | directory (entries : List (String × FileTree))

/-- Why a file cannot be opened. -/
inductive FileProblem where
  | notFound
  | notADirectory
  | isADirectory
deriving DecidableEq, Repr

/-- A file that cannot be opened. -/
structure FileError where
  problem : FileProblem
  path : String
deriving DecidableEq, Repr

/-- The wording of a file error. -/
def FileError.message (e : FileError) : String :=
  (match e.problem with
    | .notFound => "[Errno 2] No such file or directory: "
    | .notADirectory => "[Errno 20] Not a directory: "
    | .isADirectory => "[Errno 21] Is a directory: ") ++ quotedText e.path

namespace FileTree

/-- The directory without entries. -/
def empty : FileTree := directory []

/-- The entry of a name. -/
def child? (name : String) : List (String × FileTree) → Option FileTree
  | [] => none
  | (n, tree) :: entries => if n = name then some tree else child? name entries

/-- Put a tree under a name, at its place in the order of names. -/
def putChild (name : String) (tree : FileTree) :
    List (String × FileTree) → List (String × FileTree)
  | [] => [(name, tree)]
  | (n, t) :: entries =>
      if n = name then (name, tree) :: entries
      else if name < n then (name, tree) :: (n, t) :: entries
      else (n, t) :: putChild name tree entries

/-- Put a tree at the end of a row of names; directories on the way are made. -/
def put (leaf : FileTree) : List String → FileTree → FileTree
  | [], _ => leaf
  | name :: names, directory entries =>
      directory (putChild name (put leaf names ((child? name entries).getD empty)) entries)
  | name :: names, file _ => directory [(name, put leaf names empty)]

/-- Make a directory at the end of a row of names, unless something is there. -/
def makeDirectory (names : List String) (tree : FileTree) : FileTree :=
  match tree, names with
  | tree, [] => tree
  | directory entries, name :: names =>
      directory (putChild name (makeDirectory names ((child? name entries).getD empty)) entries)
  | file bytes, _ :: _ => file bytes

/-- Walk along names; `above` holds the directories above, the nearest first. -/
def walk (here : FileTree) (above : List FileTree) : List String → Except FileProblem FileTree
  | [] => .ok here
  | name :: names =>
      match here with
      | file _ => .error .notADirectory
      | directory entries =>
          if name = ".." then
            match above with
            | [] => .error .notFound
            | parent :: above => walk parent above names
          else
            match child? name entries with
            | none => .error .notFound
            | some tree => walk tree (here :: above) names

mutual

/-- The files of a tree with the names that lead to them, in order. -/
def files : FileTree → List (List String × List UInt8)
  | file bytes => [([], bytes)]
  | directory entries => filesIn entries

/-- The files below the entries of a directory. -/
def filesIn : List (String × FileTree) → List (List String × List UInt8)
  | [] => []
  | (name, tree) :: entries =>
      (files tree).map (fun found => (name :: found.1, found.2)) ++ filesIn entries

end

end FileTree

/-! ## Disks -/

/-- What stands at a path of a disk. -/
abbrev Disk := FilePath → Except FileProblem FileTree

namespace Disk

/-- The disk on which a tree is the current directory; absolute paths lead nowhere. -/
def ofTree (tree : FileTree) : Disk := fun path =>
  if path.root = "" then tree.walk [] path.names else .error .notFound

/-- The bytes of a file. -/
def read (disk : Disk) (path : FilePath) : Except FileError (List UInt8) :=
  match disk path with
  | .ok (.file bytes) => .ok bytes
  | .ok (.directory _) => .error ⟨.isADirectory, path.render⟩
  | .error problem => .error ⟨problem, path.render⟩

/-- Whether a file stands at a path. -/
def isFile (disk : Disk) (path : FilePath) : Bool :=
  match disk path with
  | .ok (.file _) => true
  | _ => false

/-- Check that a file can be written at a path: its directory exists, and it is no directory. -/
def checkWritable (disk : Disk) (path : FilePath) : Except FileError Unit :=
  match disk path.directory, disk path with
  | .error problem, _ => .error ⟨problem, path.render⟩
  | .ok (.file _), _ => .error ⟨.notADirectory, path.render⟩
  | .ok (.directory _), .ok (.directory _) => .error ⟨.isADirectory, path.render⟩
  | .ok (.directory _), _ => .ok ()

end Disk
end VideoBundle
