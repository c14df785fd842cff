import VideoBundle.HostPackage.ExportNames
import VideoBundle.OrderedMap

/-!
# Export tables

An export table lists the names that each host package exports.  Names found by asking the packages
replace the known ones; every difference between the two lists is reported.

Main results:

- `resolve_resolve`: a table of all packages is resolved to itself.
-/

namespace VideoBundle

/-- The export names of host packages, in order. -/
abbrev ExportTable := OrderedMap HostPackage (List String)

namespace ExportTable

/-- The names of the first list that are not in the second. -/
def namesMissing (names others : List String) : List String :=
  names.filter fun name => !others.contains name

/-- What is reported about a package whose found names differ from the known ones. -/
def differences (package : HostPackage) (known found : List String) : List String :=
  let missing := namesMissing known found
  let extra := namesMissing found known
  (if missing = [] then []
    else [package.specifier ++ " does not export " ++ ", ".intercalate missing ++
      " listed in the static export table"]) ++
  (if extra = [] then []
    else [package.specifier ++ " exports " ++ toString extra.length ++
      " names missing from the static export table: " ++ ", ".intercalate extra])

/-- The names of a package: the found ones if there are any, else the known ones. -/
def resolvedNames (found : ExportTable) (package : HostPackage) : List String :=
  usableNames ((found.find? package).getD package.knownNames)

/-- The table of all host packages, with found names in place of known ones. -/
def resolve (found : ExportTable) : ExportTable :=
  OrderedMap.ofList (HostPackage.all.map fun package => (package, resolvedNames found package))

/-- A resolved table has a row for each host package, in their fixed order. -/
theorem keys_resolve (found : ExportTable) : (resolve found).keys = HostPackage.all := rfl

/-- The row of a package holds what was found, or its fallback. -/
@[simp]
theorem find?_resolve (found : ExportTable) (package : HostPackage) :
    (resolve found).find? package = some (resolvedNames found package) := by
  cases package <;> rfl

/-- A table of all packages is resolved to itself. -/
theorem resolve_resolve (found : ExportTable) : resolve (resolve found) = resolve found := by
  have hnames : resolvedNames (resolve found) = resolvedNames found := by
    funext package
    simp [resolvedNames]
  rw [resolve, hnames]
  rfl

/-- What is reported about the packages whose found names differ from the known ones. -/
def warnings (found : ExportTable) : List String :=
  HostPackage.all.flatMap fun package =>
    match found.find? package with
    | some names => differences package (usableNames package.knownNames) (usableNames names)
    | none => []

/-- The table of the known names. -/
def known : ExportTable :=
  resolve OrderedMap.empty

end ExportTable
end VideoBundle
