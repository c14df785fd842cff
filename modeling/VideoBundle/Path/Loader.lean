import VideoBundle.Path.Basic

/-!
# Loaders

The extension of a path says how the file becomes a module.  Files with an extension that is not in
the table are read as typed script with markup.
-/

namespace VideoBundle

/-- The ways in which a file becomes a module. -/
inductive Loader where
  | tsx
  | ts
  | jsx
  | js
  | json
  | css
  | dataUrl
deriving DecidableEq, Repr

namespace Loader

/-- The name of a loader. -/
def name : Loader → String
  | tsx => "tsx"
  | ts => "ts"
  | jsx => "jsx"
  | js => "js"
  | json => "json"
  | css => "css"
  | dataUrl => "dataurl"

/-- Whether files with a loader are source files, which only a bundler can turn into modules. -/
def isSource : Loader → Bool
  | json | css | dataUrl => false
  | tsx | ts | jsx | js => true

end Loader

namespace Path

/-- The supported extensions in the order in which they are tried, each with its loader. -/
def loaders : List (String × Loader) :=
  [(".tsx", .tsx), (".ts", .ts), (".jsx", .jsx), (".js", .js), (".mjs", .js), (".cjs", .js),
   (".json", .json), (".css", .css),
   (".svg", .dataUrl), (".png", .dataUrl), (".jpg", .dataUrl), (".jpeg", .dataUrl),
   (".gif", .dataUrl), (".webp", .dataUrl), (".mp4", .dataUrl), (".webm", .dataUrl),
   (".mov", .dataUrl), (".mp3", .dataUrl), (".wav", .dataUrl), (".ogg", .dataUrl)]

/-- The supported extensions in the order in which they are tried. -/
def supportedExtensions : List String :=
  loaders.map Prod.fst

/-- Whether the extension of a path is supported. -/
def hasSupportedExtension (path : String) : Bool :=
  supportedExtensions.contains (extension path)

/-- The loader for a path. -/
def loader (path : String) : Loader :=
  (loaders.lookup (extension path)).getD .tsx

end Path
end VideoBundle
