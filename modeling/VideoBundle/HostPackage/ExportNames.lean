import VideoBundle.HostPackage.Basic
import VideoBundle.Text.Order

/-!
# Export names

The names under which a package offers its parts.  A name is usable when it is an identifier other
than `default`; usable names are kept in ascending order without repeats.

Main results:

- `mem_usableNames`: the usable names of a list are those of its names that pass the filter.
- `pairwise_usableNames`: usable names increase strictly.
- `usableNames_usableNames`: usable names stay usable, and in order.
-/

namespace VideoBundle

/-- Whether a character can start an identifier. -/
def isIdentifierStart (c : Char) : Bool :=
  ('a' ≤ c && c ≤ 'z') || ('A' ≤ c && c ≤ 'Z') || c = '_' || c = '$'

/-- Whether a character can stand in an identifier. -/
def isIdentifierPart (c : Char) : Bool :=
  isIdentifierStart c || ('0' ≤ c && c ≤ '9')

/-- Whether a text is an identifier. -/
def isIdentifier : List Char → Bool
  | [] => false
  | c :: cs => isIdentifierStart c && cs.all isIdentifierPart

/-- A text without a line feed at its end. -/
def dropFinalNewline (cs : List Char) : List Char :=
  if cs.getLast? = some '\n' then cs.dropLast else cs

/-- Whether a name passes as an export name: an identifier, which a line feed may end, other than
`default`. -/
def isExportName (name : String) : Bool :=
  name != "default" && isIdentifier (dropFinalNewline name.toList)

/-- The export names in a list, in ascending order without repeats. -/
def usableNames (names : List String) : List String :=
  sortedSet (names.filter isExportName)

/-- The usable names of a list are those of its names that pass the filter. -/
@[simp]
theorem mem_usableNames {name : String} {names : List String} :
    name ∈ usableNames names ↔ name ∈ names ∧ isExportName name = true := by
  simp [usableNames]

/-- Usable names increase strictly. -/
theorem pairwise_usableNames (names : List String) : (usableNames names).Pairwise (· < ·) :=
  pairwise_sortedSet _

/-- Usable names stay usable, and in order. -/
@[simp]
theorem usableNames_usableNames (names : List String) :
    usableNames (usableNames names) = usableNames names := by
  have hfilter : (usableNames names).filter isExportName = usableNames names :=
    List.filter_eq_self.2 fun _ hname => (mem_usableNames.1 hname).2
  rw [usableNames, hfilter]
  exact sortedSet_eq_self (pairwise_usableNames names)

/-- The default export is not among the names: every forwarder has one of its own. -/
theorem default_not_mem_usableNames (names : List String) : "default" ∉ usableNames names := by
  simp [isExportName]

namespace HostPackage

/-- Names that `react` exports. -/
def reactNames : List String :=
  ["Children", "Component", "Fragment", "Profiler", "PureComponent", "StrictMode", "Suspense",
   "act", "cache", "cloneElement", "createContext", "createElement", "createRef", "forwardRef",
   "isValidElement", "lazy", "memo", "startTransition", "use", "useActionState", "useCallback",
   "useContext", "useDebugValue", "useDeferredValue", "useEffect", "useId", "useImperativeHandle",
   "useInsertionEffect", "useLayoutEffect", "useMemo", "useOptimistic", "useReducer", "useRef",
   "useState", "useSyncExternalStore", "useTransition", "version"]

/-- Names that `remotion` exports. -/
def remotionNames : List String :=
  ["AbsoluteFill", "Artifact", "Audio", "Composition", "Easing", "Experimental", "Folder",
   "Freeze", "IFrame", "Img", "Internals", "Loop", "OffthreadVideo", "Sequence", "Series",
   "Still", "VERSION", "Video", "cancelRender", "continueRender", "delayRender", "getInputProps",
   "getRemotionEnvironment", "getStaticFiles", "interpolate", "interpolateColors",
   "measureSpring", "prefetch", "random", "registerRoot", "spring", "staticFile",
   "useBufferState", "useCurrentFrame", "useCurrentScale", "useVideoConfig", "watchStaticFile"]

/-- The names that a host package is known to export. -/
def knownNames : HostPackage → List String
  | react => reactNames
  | jsxRuntime => ["Fragment", "jsx", "jsxs"]
  | jsxDevRuntime => ["Fragment", "jsxDEV"]
  | remotion => remotionNames

end HostPackage
end VideoBundle
