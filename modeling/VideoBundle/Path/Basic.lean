import VideoBundle.Text.LetterCase
import VideoBundle.Text.Lines

/-!
# Paths

Files of a project have absolute paths.  The canonical spelling of a path comes from its text: every
separator becomes a slash, the path is taken from the root, and what is left is put into normal form.
Read as a list of segments, slashes and backslashes separate segments, an empty segment and a single
dot say nothing, and two dots take back the segment before them, if there is one.

Main results:

- `head?_of_canonical?`: a canonical spelling starts with a slash.
- `separator_not_mem_segments`: a segment that is left holds no separator.
-/

namespace VideoBundle
namespace Path

/-- One step on the way from the root to a file. -/
abbrev Segment := List Char

/-- Whether a character separates segments. -/
def isSeparator (c : Char) : Bool :=
  c = '/' || c = '\\'

/-- Add a segment to those kept so far, the nearest first. -/
def pushSegment (kept : List Segment) (segment : Segment) : List Segment :=
  if segment = [] ∨ segment = ['.'] then kept
  else if segment = ['.', '.'] then kept.tail
  else segment :: kept

/-- The segments of a path that are left from the root on. -/
def segments (path : List Char) : List Segment :=
  ((Text.splitWhere isSeparator path).foldl pushSegment []).reverse

/-- Segments with a slash in front of each. -/
def render (ss : List Segment) : List Char :=
  ss.flatMap ('/' :: ·)

/-! ## Normal forms -/

/-- The number of slashes in front of a normal form: two at the start of a path stay two, more count
as one. -/
def rootSlashes : List Char → Nat
  | '/' :: '/' :: '/' :: _ => 1
  | '/' :: '/' :: _ => 2
  | '/' :: _ => 1
  | _ => 0

/-- Add a component to those kept so far, the nearest first.  Two dots take back the component before
them; with nothing to take back they are kept where no root stops them. -/
def pushComponent (rooted : Bool) (kept : List Segment) (component : Segment) : List Segment :=
  if component = [] ∨ component = ['.'] then kept
  else if component ≠ ['.', '.'] ∨ (rooted = false ∧ kept = []) ∨ kept.head? = some ['.', '.'] then
    component :: kept
  else kept.tail

/-- The normal form of a path whose only separator is the slash. -/
def normalForm (path : List Char) : List Char :=
  let slashes := rootSlashes path
  let kept := (Text.splitWhere (· = '/') path).foldl (pushComponent (slashes != 0)) []
  match List.replicate slashes '/' ++ ['/'].intercalate kept.reverse with
  | [] => ['.']
  | normal => normal

/-- A path from the root, with every separator written as a slash. -/
def fromRoot (path : List Char) : List Char :=
  '/' :: (path.map fun c => if c = '\\' then '/' else c).dropWhile (· = '/')

/-! ## Canonical spellings -/

/-- The canonical spelling of a path, unless it leads nowhere. -/
def canonical? (path : String) : Option String :=
  let normal := normalForm (fromRoot path.toList)
  if normal.head? = some '/' ∧ normal ≠ ['/'] then some (String.ofList normal) else none

/-- A canonical spelling starts with a slash. -/
theorem head?_of_canonical? {path canonicalPath : String}
    (h : canonical? path = some canonicalPath) : canonicalPath.toList.head? = some '/' := by
  obtain ⟨⟨hslash, _⟩, hpath⟩ := Option.ite_none_right_eq_some.1 h
  rwa [← Option.some.inj hpath, String.toList_ofList]

/-! ## Segments that are left -/

/-- A segment on the stack was there or is the one that was pushed. -/
theorem mem_pushSegment {kept : List Segment} {segment s : Segment}
    (h : s ∈ pushSegment kept segment) : s ∈ kept ∨ s = segment := by
  simp only [pushSegment] at h
  split at h
  · exact Or.inl h
  · split at h
    · exact Or.inl (List.mem_of_mem_tail h)
    · exact (List.mem_cons.1 h).symm

/-- A segment of the normal form was there or is one of the pieces. -/
theorem mem_foldl_pushSegment {pieces kept : List Segment} {s : Segment}
    (h : s ∈ pieces.foldl pushSegment kept) : s ∈ kept ∨ s ∈ pieces := by
  induction pieces generalizing kept with
  | nil => exact Or.inl h
  | cons piece pieces ih =>
      rcases ih h with h | h
      · rcases mem_pushSegment h with h | rfl
        · exact Or.inl h
        · exact Or.inr List.mem_cons_self
      · exact Or.inr (List.mem_cons_of_mem _ h)

/-- A segment that is left holds no separator. -/
theorem separator_not_mem_segments {path : List Char} {s : Segment} (h : s ∈ segments path) :
    ∀ c ∈ s, isSeparator c = false := by
  rcases mem_foldl_pushSegment (List.mem_reverse.1 h) with h | h
  · simp at h
  · exact Text.not_of_mem_splitWhere isSeparator path s h

/-! ## Parts of a path -/

/-- The part of a path after its last slash. -/
def baseName (path : List Char) : List Char :=
  (path.reverse.takeWhile (· != '/')).reverse

/-- The part of a path up to and with its last slash. -/
def directory (path : List Char) : List Char :=
  (path.reverse.dropWhile (· != '/')).reverse

/-- The path of the directory that holds a file.  It ends in no slash, unless it is all slashes. -/
def parent (path : String) : String :=
  let above := directory path.toList
  if above.all (· = '/') then String.ofList above
  else String.ofList (above.reverse.dropWhile (· = '/')).reverse

/-- A path below another; the slash between them is not doubled. -/
def join (parent child : String) : String :=
  if parent = "" ∨ parent.toList.getLast? = some '/' then parent ++ child
  else parent ++ "/" ++ child

/-- The lowercase extension of a path: its base name from the last dot on.  Dots at the start of the
base name do not count. -/
def extension (path : String) : String :=
  let backwards := (baseName path.toList).reverse
  match backwards.dropWhile (· != '.') with
  | [] => ""
  | _ :: stem =>
      if stem.all (· == '.') then ""
      else String.ofList (Text.lower ('.' :: (backwards.takeWhile (· != '.')).reverse))

end Path
end VideoBundle
