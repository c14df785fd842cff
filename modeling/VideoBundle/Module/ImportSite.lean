import VideoBundle.Text.Search
import VideoBundle.Text.Word

/-!
# Import sites

Where a source imports a name from a specifier.  Every place where the specifier stands in quotes is
looked at in turn: the statement starts at the last `import` or `export` in front of it, and the name
is searched between the two.  If no statement holds the name, the first of them is the site.
-/

namespace VideoBundle

/-- A place in a source: line from one, column from zero, and the text of the line. -/
structure ImportSite where
  line : Nat
  column : Nat
  text : String
deriving DecidableEq, Repr

namespace ImportSite

open Text

/-- The place some characters into a source. -/
def atOffset (source : List Char) (offset : Nat) : ImportSite where
  line := (source.take offset).count '\n' + 1
  column := ((source.take offset).reverse.takeWhile (· != '\n')).length
  text := String.ofList
    (((source.take offset).reverse.takeWhile (· != '\n')).reverse ++
      (source.drop offset).takeWhile (· != '\n'))

/-- Whether a character can stand inside a name. -/
def isNameChar (c : Char) : Bool := isWordChar c || c = '$'

/-- The width of a specifier in either kind of quotes at the start of a text. -/
def quotedWidth? (specifier : List Char) : List Char → Option Nat
  | q :: cs =>
      if (q = '"' ∨ q = '\'') ∧ (specifier ++ [q]).isPrefixOf cs then some (specifier.length + 2)
      else none
  | [] => none

/-- The position of the last `import` or `export` in a text. -/
def statementStart? (cs : List Char) : Option Nat :=
  match lastIndexOf? "import".toList cs, lastIndexOf? "export".toList cs with
  | some i, some j => some (max i j)
  | some i, none => some i
  | none, found => found

/-- Whether a text starts with a name that ends there. -/
def startsWithName (name cs : List Char) : Bool :=
  match afterLead? name cs with
  | some rest => !(rest.head?.map isNameChar).getD false
  | none => false

/-- The position of a name in a text as a word of its own; `joined` tells whether the character in
front of the text can stand inside a name. -/
def nameOffset? (name : List Char) (joined : Bool) (cs : List Char) : Option Nat :=
  if !joined && startsWithName name cs then some 0
  else
    match cs with
    | [] => none
    | c :: cs => (nameOffset? name (isNameChar c) cs).map (· + 1)

/-- The offset of a name in a statement that lies between two offsets of a source. -/
def nameInStatement? (source name : List Char) (first last : Nat) : Option Nat :=
  let joined := ((source.take first).getLast?.map isNameChar).getD false
  (nameOffset? name joined ((source.take last).drop first)).map (first + ·)

/-- The offset of an import site: the name in the first statement that holds it, else the start of a
statement; `fallback` is the start found so far, where zero counts as none. -/
def offsetFrom (source name : List Char) (fallback : Nat) : (quotes : List Nat) → Nat
  | [] => fallback
  | quote :: quotes =>
      match statementStart? (source.take quote) with
      | none => offsetFrom source name fallback quotes
      | some start =>
          if name = "default".toList then start
          else
            match nameInStatement? source name start quote with
            | some offset => offset
            | none => offsetFrom source name (if fallback = 0 then start else fallback) quotes

/-- Where a source imports a name from a specifier. -/
def locate (source specifier name : String) : ImportSite :=
  let quotes := matchOffsets (quotedWidth? specifier.toList) 0 0 source.toList
  atOffset source.toList (offsetFrom source.toList name.toList 0 quotes)

end ImportSite
end VideoBundle
