import VideoBundle.HostPackage.Forwarder
import VideoBundle.Number.Numeral
import VideoBundle.Text.Blank

/-!
# Diagnostics

A diagnostic is one error of the bundler, perhaps with the place in a file to which it points.  Lines
count from one and columns from zero; a column is shown counted from one.
-/

namespace VideoBundle

/-- One error of the bundler. -/
structure Diagnostic where
  text : String
  file : Option String
  line : Option Int
  column : Option Int
  lineText : Option String
deriving DecidableEq, Repr

namespace Diagnostic

/-- An integer as a part of a place; zero says nothing. -/
def placePart (n : Option Int) : Option String :=
  (n.filter (· != 0)).map fun n => String.ofList (integerDigits n)

/-- The parts of a place that say something, between colons. -/
def place (file : String) (line column : Option Int) : String :=
  ":".intercalate
    ([some file |>.filter (· != ""), placePart line, placePart (column.map (· + 1))].filterMap id)

/-- The line of source that is shown under a diagnostic. -/
def context (lineText : Option String) : String :=
  match lineText with
  | some line => if line = "" then "" else "\n> " ++ stripText line
  | none => ""

/-- The text of a diagnostic with its place. -/
def render (d : Diagnostic) : String :=
  match d.file with
  | none => d.text
  | some file => place file d.line d.column ++ " " ++ d.text ++ context d.lineText

/-- The items of a list up to an end, which counts from the back when it is negative. -/
def upTo {α : Type} (limit : Int) (items : List α) : List α :=
  if 0 ≤ limit then items.take limit.toNat else items.take (items.length - limit.natAbs)

/-- Number of diagnostics that a message shows. -/
def shown : Int := 5

/-- The texts of the diagnostics up to an end, one below the other. -/
def renderUpTo (limit : Int) (ds : List Diagnostic) : String :=
  joinLines ((upTo limit ds).map render)

/-- The texts of the first diagnostics, one below the other. -/
def renderAll (ds : List Diagnostic) : String :=
  renderUpTo shown ds

end Diagnostic
end VideoBundle
