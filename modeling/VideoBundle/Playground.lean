import VideoBundle.Json.Reader
import VideoBundle.Json.Writer
import VideoBundle.HostPackage.Forwarder

/-!
# Playgrounds

A playground runs bundles in a script engine.  The host registers its packages first; the registry is
closed before the first bundle is run, and nothing is registered from then on.  A script that throws
leaves the playground as it was.

Main results:

- `perform_closed`: a closed registry stays closed.
-/

namespace VideoBundle

/-- What the engine answers to a script. -/
inductive EngineAnswer where
  | value (v : Value String)
  | throws (message : String)

/-- A playground with the names that were registered, in order of registration. -/
structure Playground where
  registered : List String
  closed : Bool
deriving DecidableEq

/-- Why an operation on a playground fails. -/
inductive PlaygroundError where
  | notInstalled
  | registryClosed
  | alreadyRegistered (name : String)
  | thrown (message : String)
  | malformedJson (e : Json.Error)
deriving DecidableEq

/-- The wording of a playground error. -/
def PlaygroundError.message : PlaygroundError → String
  | .notInstalled => "The quickjs package must be installed to run bundles"
  | .registryClosed => "Runtime registry is frozen; register modules before loading bundles."
  | .alreadyRegistered name => "Runtime module already registered: " ++ name
  | .thrown message => message
  | .malformedJson e => e.message

/-- The operations on a playground. -/
inductive PlaygroundOperation where
  | register (name expression : String)
  | close
  | load (bundle name : String)
  | evaluate (code : String)
  | evaluateJson (expression : String)

/-- What an operation leaves: the playground, the scripts that were evaluated, and the answer. -/
structure PlaygroundStep where
  playground : Playground
  scripts : List String
  answer : Except PlaygroundError (Value String)

namespace Playground

/-- Bytes of memory that scripts may use. -/
def memoryLimit : Nat := 64 * 1024 * 1024

/-- Seconds that a script may run. -/
def timeLimit : Nat := 5

/-- The global variable that keeps the exports of bundles. -/
def bundlesGlobal : String := "__bundles__"

/-- Nothing is registered. -/
def initial : Playground := ⟨[], false⟩

/-- The registered names in ascending order. -/
def names (p : Playground) : List String := sortTexts p.registered

/-- The script that makes the registry and the place for bundles. -/
def startScript : String :=
  "globalThis." ++ registryGlobal ++ " = globalThis." ++ registryGlobal ++ " || \x7b\x7d;" ++
    "globalThis." ++ bundlesGlobal ++ " = \x7b\x7d;"

/-- The script that registers a package. -/
def registerScript (name expression : String) : String :=
  "globalThis." ++ registryGlobal ++ "[" ++ Json.literal name ++ "] = (" ++ expression ++ ");"

/-- The script that closes the registry. -/
def closeScript : String := "Object.freeze(globalThis." ++ registryGlobal ++ ");"

/-- The script that runs a bundle and keeps its exports. -/
def loadScript (bundle name : String) : String :=
  "(function () \x7b\n" ++ bundle ++ "\nglobalThis." ++ bundlesGlobal ++ "[" ++
    Json.literal name ++ "] = " ++ bundleGlobal ++ ";\n\x7d)();"

/-- The first of the engine's answers; an engine without answers gives null. -/
def engineAnswer : List EngineAnswer → Except PlaygroundError (Value String)
  | [] => .ok .null
  | .value v :: _ => .ok v
  | .throws message :: _ => .error (.thrown message)

/-- The value that an engine wrote as JSON. -/
def readJson : Value String → Except PlaygroundError (Value String)
  | .text source =>
      match Json.decode source with
      | .ok v => .ok v
      | .error e => .error (.malformedJson e)
  | _ => .ok .null

/-- Register a package, unless the registry is closed or the name is taken. -/
def register (p : Playground) (name expression : String) (answers : List EngineAnswer) :
    PlaygroundStep :=
  if p.closed then ⟨p, [], .error .registryClosed⟩
  else if p.registered.contains name then ⟨p, [], .error (.alreadyRegistered name)⟩
  else
    match engineAnswer answers with
    | .ok _ =>
        ⟨{ p with registered := p.registered ++ [name] }, [registerScript name expression],
         .ok .null⟩
    | .error e => ⟨p, [registerScript name expression], .error e⟩

/-- Start a playground on an engine, if one is installed. -/
def start (installed : Bool) (answers : List EngineAnswer) : Except PlaygroundError Playground :=
  if !installed then .error .notInstalled
  else (engineAnswer answers).map fun _ => initial

/-- Close the registry, unless it is closed. -/
def close (p : Playground) (answers : List EngineAnswer) : PlaygroundStep :=
  if p.closed then ⟨p, [], .ok .null⟩
  else
    match engineAnswer answers with
    | .ok _ => ⟨{ p with closed := true }, [closeScript], .ok .null⟩
    | .error e => ⟨p, [closeScript], .error e⟩

/-- Close the registry, then run a bundle. -/
def load (p : Playground) (bundle name : String) (answers : List EngineAnswer) : PlaygroundStep :=
  let closing := p.close answers
  match closing.answer with
  | .error e => ⟨closing.playground, closing.scripts, .error e⟩
  | .ok _ =>
      ⟨closing.playground, closing.scripts ++ [loadScript bundle name],
       (engineAnswer (answers.drop closing.scripts.length)).map fun _ => .null⟩

/-- Perform an operation with the answers that the engine will give. -/
def perform (p : Playground) (operation : PlaygroundOperation) (answers : List EngineAnswer) :
    PlaygroundStep :=
  match operation with
  | .register name expression => p.register name expression answers
  | .close => p.close answers
  | .load bundle name => p.load bundle name answers
  | .evaluate code => ⟨p, [code], engineAnswer answers⟩
  | .evaluateJson expression =>
      ⟨p, ["JSON.stringify(" ++ expression ++ ")"], (engineAnswer answers).bind readJson⟩

/-- A closed registry stays closed. -/
theorem perform_closed (p : Playground) (operation : PlaygroundOperation)
    (answers : List EngineAnswer) (h : p.closed = true) :
    (p.perform operation answers).playground = p := by
  cases operation with
  | register name expression => simp [perform, register, h]
  | close => simp [perform, close, h]
  | load bundle name => simp [perform, load, close, h]
  | evaluate code => rfl
  | evaluateJson expression => rfl

end Playground
end VideoBundle
