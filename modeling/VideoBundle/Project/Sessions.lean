import VideoBundle.Project.Document

/-!
# Sessions

The last document of every session is remembered, for a bounded number of sessions.  Remembering puts
a session last; when there are too many, those at the front are forgotten.  Looking a document up
moves nothing.

Main results:

- `size_trimmed_le`: a trimmed map has at most as many entries as asked for.
-/

namespace VideoBundle

namespace OrderedMap

variable {κ υ : Type}

/-- The last `count` entries of a map. -/
def trimmed (m : OrderedMap κ υ) (count : Nat) : OrderedMap κ υ :=
  ⟨m.entries.drop (m.size - count), m.distinctKeys.sublist ((List.drop_sublist _ _).map Prod.fst)⟩

/-- A trimmed map has at most as many entries as asked for. -/
theorem size_trimmed_le (m : OrderedMap κ υ) (count : Nat) : (m.trimmed count).size ≤ count := by
  simp only [trimmed, size, List.length_drop]
  omega

end OrderedMap

/-- Documents of sessions, the least recently remembered first. -/
structure Sessions where
  capacity : Nat
  documents : OrderedMap String Document

namespace Sessions

/-- No document is remembered. -/
def empty (capacity : Nat) : Sessions := ⟨capacity, OrderedMap.empty⟩

/-- Sessions with a capacity, which has to be positive. -/
def withCapacity? (capacity : Int) : Option Sessions :=
  if 1 ≤ capacity then some (empty capacity.toNat) else none

/-- The wording for a capacity that is not positive. -/
def capacityMessage : String := "capacity must be at least 1"

/-- The number of sessions. -/
def size (s : Sessions) : Nat := s.documents.size

/-- The sessions, the least recently remembered first. -/
def ids (s : Sessions) : List String := s.documents.keys

/-- Whether a session is remembered. -/
def contains (s : Sessions) (id : String) : Bool := s.documents.contains id

/-- The document of a session. -/
def find? (s : Sessions) (id : String) : Option Document := s.documents.find? id

/-- Remember the document of a session; the empty name is no session. -/
def remember (s : Sessions) (id : String) (d : Document) : Sessions :=
  if id = "" then s
  else { s with documents := ((s.documents.erase id).insert id d).trimmed s.capacity }

/-- Forget a session. -/
def clear (s : Sessions) (id : String) : Sessions :=
  { s with documents := s.documents.erase id }

end Sessions
end VideoBundle
