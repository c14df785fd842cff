import VideoBundle.Distinct
import VideoBundle.Value.Display

/-!
# Build reports

The bundler reports on every build: its outputs with the imports that were left outside and the names
that are exported, and its inputs with their module formats.  The output of interest is the first
that is no source map.
-/

namespace VideoBundle
namespace Report

/-- The object under a key; nothing for a missing or empty one. -/
def entriesUnder (v : Value String) (key : String) : Fields :=
  ((v.field? key).bind Value.object?).getD []

/-- The items under a key; nothing for a missing one. -/
def itemsUnder (v : Value String) (key : String) : List (Value String) :=
  match v.field? key with
  | some (.list items) => items
  | _ => []

/-- Whether a path names a source map. -/
def isSourceMap (path : String) : Bool :=
  ".map".toList.isSuffixOf path.toList

/-- The first output that is no source map. -/
def output (report : Value String) : Value String :=
  (((entriesUnder report "outputs").find? fun entry => !isSourceMap entry.1).map Prod.snd).getD
    (.object [])

/-- The inputs. -/
def inputs (report : Value String) : List (Value String) :=
  (entriesUnder report "inputs").map Prod.snd

/-- The records of imports: those of the output, else those of all inputs. -/
def records (report : Value String) : List (Value String) :=
  match ((output report).field? "imports").bind Value.nonNull? with
  | some (.list items) => items
  | some _ => []
  | none => (inputs report).flatMap (itemsUnder · "imports")

/-- The path of a record, if the import was left outside. -/
def externalPath? (record : Value String) : Option String :=
  let isExternal := ((record.field? "external").map Value.isTruthy).getD false
  match record.field? "path" with
  | some (.text path) => if isExternal && path != "" then some path else none
  | _ => none

/-- The imports that were left outside, in order and without repeats. -/
def imports (report : Value String) : List String :=
  distinct ((records report).filterMap externalPath?)

/-- Whether there are inputs and all of them are modules of the standard format. -/
def isStandardFormat (report : Value String) : Bool :=
  let formats := (inputs report).map (·.field? "format")
  formats != [] && formats.all (· = some (.text "esm"))

/-- The exported names, if they are known. -/
def exports? (report : Value String) : Option (List String) :=
  match ((output report).field? "exports").bind Value.nonNull? with
  | some (.list names) => some (names.map Value.plainText)
  | some _ => some []
  | none => none

/-- The exported names of a build whose inputs are all modules of the standard format. -/
def standardExports? (report : Value String) : Option (List String) :=
  if isStandardFormat report then exports? report else none

end Report
end VideoBundle
