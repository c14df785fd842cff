import VideoBundle.HostPackage.Forwarder
import VideoBundle.OrderedMap
import VideoBundle.Text.Search

/-!
# Modules of a bundle

A bundle holds modules under identifiers.  A module has code and knows to which module each of its
specifiers leads.  A loader in front of the modules runs every module once, when it is first required.
-/

namespace VideoBundle

/-- A module of a bundle. -/
structure Module where
  /-- The identifier under which the module is written. -/
  id : String
  code : String
  /-- The identifiers to which the specifiers lead. -/
  dependencies : OrderedMap String String
deriving DecidableEq

/-- The modules of a bundle under their identifiers, in order. -/
abbrev ModuleTable := OrderedMap String Module

namespace ModuleId

/-- The module that hands out the exports of the entry file. -/
def entry : String := "<entry>"

/-- The module that holds all installed packages. -/
def packages : String := "<packages>"

/-- The module that forwards to a host package. -/
def host (specifier : String) : String := "runtime:" ++ specifier

/-- The module of an installed package. -/
def package (specifier : String) : String := "package:" ++ specifier

/-- The specifier of an installed package's module. -/
def packageOf? (id : String) : Option String :=
  (Text.afterLead? "package:".toList id.toList).map String.ofList

/-- The specifier of a host package's module. -/
def hostOf? (id : String) : Option String :=
  (Text.afterLead? "runtime:".toList id.toList).map String.ofList

/-- The name of a module in messages. -/
def shown (id : String) : String :=
  ((hostOf? id).or (packageOf? id)).getD id

end ModuleId

namespace ModuleTable

/-- An object of texts with its keys in ascending order. -/
def sortedObject (entries : OrderedMap String String) : Value String :=
  .object ((sortTexts entries.keys).map fun key => (key, .text ((entries.find? key).getD "")))

/-- The definition of one module. -/
def definition (m : Module) : String :=
  "  " ++ Json.literal m.id ++ ": [function (module, exports, require) \x7b\n" ++ m.code ++
    "\n\x7d, " ++ Json.encode (sortedObject m.dependencies) ++ "]"

/-- The bundle of modules: a call that loads the module `entry` and keeps its exports. -/
def link (modules : ModuleTable) (entry : String) : String :=
  joinLines
    ["var " ++ bundleGlobal ++ " = (function () \x7b",
     "var __definitions = \x7b",
     ",\n".intercalate (modules.entries.map fun entry => definition entry.2),
     "\x7d;",
     "var __cache = \x7b\x7d;",
     "function __require(id) \x7b",
     "  var cached = __cache[id];",
     "  if (cached) return cached.exports;",
     "  var definition = __definitions[id];",
     "  if (!definition) throw new Error(\"Module not found in bundle: \" + id);",
     "  var module = \x7b exports: \x7b\x7d \x7d;",
     "  __cache[id] = module;",
     "  definition[0].call(module.exports, module, module.exports, function (specifier) \x7b",
     "    var target = definition[1][specifier];",
     "    if (target === undefined) \x7b",
     "      throw new Error(\"Cannot find module \\\"\" + specifier + \"\\\" from \\\"\" + id + \"\\\"\");",
     "    \x7d",
     "    return __require(target);",
     "  \x7d);",
     "  return module.exports;",
     "\x7d",
     "return __require(" ++ Json.literal entry ++ ");",
     "\x7d)();",
     ""]

end ModuleTable
end VideoBundle
