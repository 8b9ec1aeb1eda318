import Scaffold.Backend.Sample
import Scaffold.Backend.Shape
import Scaffold.Run.Host
import Scaffold.Shape.OfYaml

/-!
Backends and settings read from files.
-/
namespace Scaffold

variable {m : Type → Type} [Monad m] [Host m]

def isYaml (path : Path) : Bool :=
  path.extension?.any fun extension => extension == "yaml" || extension == "yml"

def backendOfText (yaml : Bool) (text : String) : Except Cause Backend :=
  if yaml then
    match Shape.backend.ofYamlText text with
    | some backend => .ok backend
    | none => .error .yaml
  else (Shape.backend.ofJsonText text).mapError .json

def loadBackend (path : Path) : Task m Backend := do
  let text ← Task.readText ("Failed to read backend structure: " ++ path.text) path
  match backendOfText (isYaml path) text with
  | .ok backend =>
    Task.note (.backendLoaded path backend.tables.length backend.endpoints.length)
    return backend
  | .error cause => throw (.ofCause ("Failed to parse backend structure: " ++ path.text) cause)

inductive Source where
  | file (path : Path)
  | prompt (text : String)
  deriving DecidableEq, Repr

def Source.path? : Source → Option Path
  | file path => some path
  | prompt _ => none

def takeSample (prompt : String) : Task m Backend := do
  Task.note (.sampleTaken prompt.utf8ByteSize)
  return Sample.backend

def Source.load : Source → Task m Backend
  | file path => loadBackend path
  | prompt text => takeSample text

namespace Config

def fileName : String := "stackforge.toml"

def loadFile (path : Path) : Task m (Option Config) := do
  if !(← Task.isThere path) then return none
  let text ← Task.readText ("Failed to read generator config: " ++ path.text) path
  match Config.ofText text with
  | .ok config => return some config
  | .error fault =>
    throw (.within ("Invalid generator config: " ++ path.text)
      (.ofCause fault.message (.config fault)))

def beside (input : Path) : Task m (Option Path) := do
  match input.parent? with
  | none => return none
  | some parent =>
    let path := parent.push fileName
    if ← Task.isThere path then return some path else return none

/-- The file that is asked for, which must be there, or else the one beside the input. -/
def select (explicit input : Option Path) : Task m (Option Path) := do
  match explicit with
  | some path =>
    if ← Task.isThere path then return some path
    else throw { contexts := ["Config file not found: " ++ path.text] }
  | none =>
    match input with
    | some input => beside input
    | none => return none

def load (environment : Environment) (explicit input : Option Path) : Task m Config := do
  let config ← match ← select explicit input with
    | some path =>
      Task.note (.configLoading path)
      pure ((← loadFile path).getD {})
    | none => pure {}
  match strayOrder environment with
  | some raw => Task.note (.orderIgnored raw)
  | none => pure ()
  return config.withEnvironment environment

end Config
end Scaffold
