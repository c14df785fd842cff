import VideoBundle.HostPackage.ExportTable
import VideoBundle.Json.Writer

/-!
# Forwarding modules

A bundle reaches a host package through a module that forwards every export to the host's registry,
so that all bundles share the host's copy.
-/

namespace VideoBundle

/-- The global variable that holds the host's registry of packages. -/
def registryGlobal : String := "__REMOTION_RUNTIME_PACKAGES__"

/-- The global variable to which a bundle is assigned. -/
def bundleGlobal : String := "__REMOTION_BUNDLE__"

/-- Lines joined by line feeds. -/
def joinLines (lines : List String) : String :=
  "\n".intercalate lines

namespace HostPackage

/-- The names for which a forwarding module defines a getter. -/
def forwardedNames (names : List String) : List String :=
  "default" :: usableNames names

/-- The forwarding module of a package with export names. -/
def forwarder (name : String) (names : List String) : String :=
  joinLines
    ["var modules = globalThis." ++ registryGlobal ++ ";",
     "var runtime = modules ? modules[" ++ Json.literal name ++ "] : undefined;",
     "if (!runtime) throw new Error(" ++ Json.literal ("Missing runtime module: " ++ name) ++ ");",
     "Object.defineProperty(exports, \"__esModule\", \x7b value: true \x7d);",
     Json.literalList (forwardedNames names) ++ ".forEach(function (name) \x7b",
     "  Object.defineProperty(exports, name, \x7b",
     "    enumerable: true,",
     "    get: function () \x7b return runtime[name]; \x7d",
     "  \x7d);",
     "\x7d);",
     ""]

end HostPackage

namespace ExportTable

/-- The forwarding modules of the packages in a table, by name. -/
def forwarders (table : ExportTable) : List (String × String) :=
  table.entries.map fun entry => (entry.1.specifier, HostPackage.forwarder entry.1.specifier entry.2)

/-- The names of the packages in a table, in ascending order. -/
def packageNames (table : ExportTable) : List String :=
  sortTexts (table.keys.map HostPackage.specifier)

end ExportTable
end VideoBundle
