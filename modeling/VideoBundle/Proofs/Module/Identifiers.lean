import VideoBundle.Module.Basic
import VideoBundle.Path.Basic
import VideoBundle.Specifier

/-!
# Module identifiers

The identifiers of a bundle come from four spaces that never meet: canonical paths of files, modules
of host packages, modules of installed packages, and the two modules that every walk adds itself.

Main results:

- `packageOf?_eq_some_iff`: an identifier belongs to an installed package exactly when it is the one
  written for that package.
- `host_ne_package`, `host_ne_of_absolute`, `package_ne_of_absolute`: the spaces are apart.
-/

namespace VideoBundle

/-- The canonical spelling of a path is absolute. -/
theorem Specifier.isAbsolute_of_canonical? {path canonicalPath : String}
    (h : Path.canonical? path = some canonicalPath) : isAbsolute canonicalPath = true := by
  simp [isAbsolute, Path.head?_of_canonical? h]

namespace ModuleId

open Specifier (isAbsolute)

/-- An identifier belongs to the installed package for which it is written, and to no other. -/
theorem packageOf?_eq_some_iff {id specifier : String} :
    packageOf? id = some specifier ↔ id = package specifier := by
  simp only [packageOf?, Option.map_eq_some_iff, Text.afterLead?_eq_some_iff, package]
  constructor
  · rintro ⟨rest, hid, rfl⟩
    apply String.toList_injective
    simpa using hid
  · rintro rfl
    exact ⟨specifier.toList, by simp, by simp⟩

/-- A package is read off its identifier. -/
@[simp]
theorem packageOf?_package (specifier : String) : packageOf? (package specifier) = some specifier :=
  packageOf?_eq_some_iff.2 rfl

/-- Packages are told by their identifiers. -/
theorem package_injective {a b : String} (h : package a = package b) : a = b := by
  have := packageOf?_package a
  rw [h, packageOf?_package] at this
  exact (Option.some.inj this).symm

/-- Host packages are told by their identifiers. -/
theorem host_injective {a b : String} (h : host a = host b) : a = b := by
  have := congrArg String.toList h
  simp only [host, String.toList_append, List.append_right_inj] at this
  exact String.toList_injective this

/-- Host packages and packages have different identifiers. -/
theorem host_ne_package (a b : String) : host a ≠ package b := by
  intro h
  have := congrArg (·.toList.head?) h
  simp [host, package] at this

/-- The module of a host package is no installed package. -/
@[simp]
theorem packageOf?_host (specifier : String) : packageOf? (host specifier) = none := by
  rw [Option.eq_none_iff_forall_ne_some]
  intro other hother
  exact host_ne_package _ _ (packageOf?_eq_some_iff.1 hother)

/-- No host package has the identifier of the entry. -/
theorem host_ne_entry (specifier : String) : host specifier ≠ entry := by
  intro h
  have := congrArg (·.toList.head?) h
  simp [host, entry] at this

theorem host_ne_packages (specifier : String) : host specifier ≠ packages := by
  intro h
  have := congrArg (·.toList.head?) h
  simp [host, packages] at this

theorem package_ne_entry (specifier : String) : package specifier ≠ entry := by
  intro h
  have := congrArg (·.toList.head?) h
  simp [package, entry] at this

theorem package_ne_packages (specifier : String) : package specifier ≠ packages := by
  intro h
  have := congrArg (·.toList.head?) h
  simp [package, packages] at this

/-- No file has the identifier of the entry. -/
theorem ne_entry_of_absolute {id : String} (h : isAbsolute id = true) : id ≠ entry := by
  rintro rfl
  exact absurd h (by decide)

theorem ne_packages_of_absolute {id : String} (h : isAbsolute id = true) : id ≠ packages := by
  rintro rfl
  exact absurd h (by decide)

/-- No file has the identifier of a host package. -/
theorem host_ne_of_absolute {id : String} (h : isAbsolute id = true) (specifier : String) :
    host specifier ≠ id := by
  rintro rfl
  simp [isAbsolute, host] at h

theorem package_ne_of_absolute {id : String} (h : isAbsolute id = true) (specifier : String) :
    package specifier ≠ id := by
  rintro rfl
  simp [isAbsolute, package] at h

end ModuleId
end VideoBundle
