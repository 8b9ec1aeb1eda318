import Scaffold.CommandLine.Run
import Scaffold.Log.Line

/-!
The program: arguments and environment in, files and lines out.
-/
namespace Scaffold.Main

structure Console where
  settings : Log.Settings
  filter : Log.Filter

abbrev Terminal := ReaderT Console IO

def faultOf : IO.Error → FileFault
  | .noFileOrDirectory _ _ _ => .notFound
  | .alreadyExists _ _ _ => .alreadyThere
  | .inappropriateType _ 20 _ => .notDirectory
  | .inappropriateType _ 21 _ => .isDirectory
  | error => .other (toString error)

def attempt {α : Type} (action : IO α) : IO (Except FileFault α) := do
  match ← action.toBaseIO with
  | .ok value => return .ok value
  | .error error => return .error (faultOf error)

def isThere (path : Path) : IO Bool := do
  return (← attempt (IO.FS.realPath path.text)).isOk

def makeDirectories (path : Path) : IO Unit := do
  if !path.text.isEmpty then IO.FS.createDirAll path.text

def place (event : Log.Event) : Log.Place :=
  ⟨event.target ++ ":", [("filename", .string event.target)]⟩

def note (event : Log.Event) : Terminal Unit := do
  let console ← read
  if console.filter.passes event then
    IO.eprintln (event.line console.settings (place event))

instance : Host Terminal where
  isThere path := isThere path
  read path := attempt (IO.FS.readBinFile path.text)
  makeDirectories path := attempt (makeDirectories path)
  write path content := attempt (IO.FS.writeBinFile path.text content)
  print line := IO.println line
  note := note

def environment : IO Environment := do
  let names := [Config.packageNameVariable, Config.orderVariable, Log.levelVariable,
    Log.formatVariable, Log.directivesVariable, Log.placeVariable, Log.filterVariable]
  let values ← names.mapM fun name => return (name, ← IO.getEnv name)
  return fun name => (values.lookup name).join

def run (arguments : List String) : IO UInt32 := do
  let environment ← environment
  let settings := Log.Settings.ofEnvironment environment
  settings.notices.forM IO.eprintln
  let console : Console := ⟨settings, settings.filter environment⟩
  let execution : Terminal CommandLine.Ending := CommandLine.execute environment arguments
  let ending ← execution.run console
  ending.lines.forM IO.eprintln
  return ending.code.toUInt32

end Scaffold.Main

def main (arguments : List String) : IO UInt32 :=
  Scaffold.Main.run arguments
