/-!
# Host packages

The host runs four packages of its own.  Projects import them by name and share the host's copies.
-/

namespace VideoBundle

/-- A package that the host provides. -/
inductive HostPackage where
  | react
  | jsxRuntime
  | jsxDevRuntime
  | remotion
deriving DecidableEq, Repr

namespace HostPackage

/-- The host packages in their fixed order. -/
def all : List HostPackage :=
  [react, jsxRuntime, jsxDevRuntime, remotion]

/-- The name by which a package is imported. -/
def specifier : HostPackage → String
  | react => "react"
  | jsxRuntime => "react/jsx-runtime"
  | jsxDevRuntime => "react/jsx-dev-runtime"
  | remotion => "remotion"

/-- The host package with a name. -/
def ofSpecifier? (name : String) : Option HostPackage :=
  all.find? (·.specifier == name)

/-- The name of a package belongs to it. -/
@[simp]
theorem ofSpecifier?_specifier (p : HostPackage) : ofSpecifier? p.specifier = some p := by
  cases p <;> decide

/-- A package found by a name has that name. -/
theorem specifier_of_ofSpecifier? {name : String} {p : HostPackage}
    (h : ofSpecifier? name = some p) : p.specifier = name := by
  simpa using List.find?_some h

/-- Different packages have different names. -/
theorem specifier_injective {p q : HostPackage} (h : p.specifier = q.specifier) : p = q := by
  have := ofSpecifier?_specifier p
  rw [h, ofSpecifier?_specifier] at this
  exact (Option.some.inj this).symm

end HostPackage
end VideoBundle
