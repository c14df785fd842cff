import VideoBundle.Json.Reader
import VideoBundle.Module.Basic
import VideoBundle.Module.DataUrl

/-!
# Code of modules

The code of modules that no bundler has to build: the entry module, the modules of data files, style
sheets and assets, and those that hand out single packages.
-/

namespace VideoBundle
namespace ModuleSource

/-- The entry module hands out all exports of the entry file. -/
def entry (entryFile : String) : String :=
  joinLines
    ["var entryModule = require(" ++ Json.literal entryFile ++ ");",
     "Object.defineProperty(exports, \"__esModule\", \x7b value: true \x7d);",
     "exports.default = entryModule && entryModule.__esModule ? entryModule.default : entryModule;",
     "Object.keys(entryModule || \x7b\x7d).forEach(function (name) \x7b",
     "  if (name === \"default\" || name === \"__esModule\") return;",
     "  Object.defineProperty(exports, name, \x7b",
     "    enumerable: true,",
     "    get: function () \x7b return entryModule[name]; \x7d",
     "  \x7d);",
     "\x7d);"]

/-- A data file hands out its value. -/
def json (source : PointText) : Except Json.Error String :=
  (Json.readPoints source).map fun v =>
    "module.exports = " ++ String.ofList (Json.write (v.mapText PointText.units)) ++ ";"

/-- A style sheet adds itself to the document, if there is one. -/
def css (path : String) (source : PointText) : String :=
  joinLines
    ["if (typeof document !== \"undefined\") \x7b",
     "  var style = document.createElement(\"style\");",
     "  style.setAttribute(\"data-file\", " ++ Json.literal path ++ ");",
     "  style.textContent = " ++ String.ofList (Json.writeUnits source.units) ++ ";",
     "  document.head.appendChild(style);",
     "\x7d",
     "module.exports = \x7b\x7d;"]

/-- An asset hands out its data URL. -/
def asset (path source : String) : String :=
  "module.exports = " ++ Json.literal (DataUrl.ofSource path source) ++ ";"

/-- An installed package is one of the exports of the module that holds all of them. -/
def package (specifier : String) : String :=
  "module.exports = require(" ++ Json.literal ModuleId.packages ++ ")[" ++
    Json.literal specifier ++ "];"

end ModuleSource
end VideoBundle
