import VideoBundle.HostPackage.Forwarder
import VideoBundle.Json.Reader
import VideoBundle.Text.Blank
import VideoBundle.Text.Lines
import VideoBundle.Value.Display

/-!
# Discovery of export names

The export names of the host packages are found by running a script interpreter that prints them as
the last line of its output.  Whatever happens to that run, discovery answers with a table, which may
be empty, and with warnings.
-/

namespace VideoBundle

/-- How a run of the script interpreter ended. -/
inductive DiscoveryRun where
  /-- The interpreter could not be started. -/
  | notStarted (problem : String)
  /-- The run failed, or its output was not to be had. -/
  | failed (problem : String)
  | finished (output : String)
deriving DecidableEq, Repr

/-- A call of the script interpreter. -/
structure DiscoveryCall where
  interpreter : String
  /-- The names of the packages as a JSON text. -/
  names : String
  directory : String
  /-- Seconds after which the run is given up. -/
  timeout : Binary64

/-- The names found for host packages, with warnings. -/
structure Discovery where
  found : ExportTable
  warnings : List String

namespace Discovery

/-- Thirty seconds. -/
def timeout : Binary64 := Binary64.ofRatio false 30 1

/-- The call that asks for the export names of all host packages. -/
def call (interpreter directory : String) : DiscoveryCall :=
  ⟨interpreter, Json.literalList (HostPackage.all.map HostPackage.specifier), directory, timeout⟩

/-- The value printed as the last line of an output, or what is wrong with it. -/
def lastValue (output : String) : Except String (Value String) :=
  match (Text.splitLines (Text.strip output.toList)).getLast? with
  | none => .error "list index out of range"
  | some line =>
      match Json.decode (String.ofList line) with
      | .ok v => .ok v
      | .error e => .error e.message

/-- The value that a run printed, or why there is none. -/
def answer : DiscoveryRun → Except String (Value String)
  | .notStarted problem => .error problem
  | .failed problem => .error problem
  | .finished output => lastValue output

/-- The names in a package's answer. -/
def namesOf? (answer : Value String) (package : HostPackage) : Option (List String) :=
  match answer.field? package.specifier with
  | some (.list names) => some (usableNames (names.map Value.plainText))
  | _ => none

/-- The names found for each package, with a warning for each package without an answer. -/
def ofAnswer (answer : Value String) : Discovery where
  found := OrderedMap.ofList (HostPackage.all.filterMap fun package =>
    (namesOf? answer package).map (package, ·))
  warnings := (HostPackage.all.filter fun package => (namesOf? answer package).isNone).map
    fun package =>
      "Runtime module " ++ package.specifier ++ " could not be imported during discovery"

/-- What a run of the interpreter tells. -/
def ofRun (run : DiscoveryRun) : Discovery :=
  match answer run with
  | .ok answer => ofAnswer answer
  | .error problem =>
      ⟨OrderedMap.empty,
       ["Runtime export discovery failed, using the static export table: " ++ problem]⟩

/-- The export table of a run. -/
def table (d : Discovery) : ExportTable :=
  ExportTable.resolve d.found

/-- All warnings of a run, those on the table last. -/
def allWarnings (d : Discovery) : List String :=
  d.warnings ++ ExportTable.warnings d.found

end Discovery
end VideoBundle
