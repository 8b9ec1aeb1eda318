import Scaffold.Log.Event
import Scaffold.Run.Failure

/-!
What a run asks of the system it runs on, and a workspace that gives it: a tree of files in which
one directory is the current one.
-/
namespace Scaffold

class Host (m : Type → Type) where
  isThere : Path → m Bool
  read : Path → m (Except FileFault ByteArray)
  makeDirectories : Path → m (Except FileFault Unit)
  write : Path → ByteArray → m (Except FileFault Unit)
  print : String → m Unit
  note : Log.Event → m Unit

/-- A step of a run, which may fail. What was done before a failure stays done. -/
abbrev Task (m : Type → Type) (α : Type) : Type :=
  ExceptT Failure m α

namespace Task

variable {m : Type → Type} [Monad m] {α : Type}

def attempt (context : String) (result : m (Except FileFault α)) : Task m α := do
  match ← ExceptT.lift result with
  | .ok value => return value
  | .error fault => throw (.ofCause context (.file fault))

def within (context : String) (task : Task m α) : Task m α :=
  ExceptT.adapt (.within context) task

variable [Host m]

def isThere (path : Path) : Task m Bool :=
  ExceptT.lift (Host.isThere path)

def readText (context : String) (path : Path) : Task m String := do
  let content ← attempt context (Host.read path)
  match String.fromUTF8? content with
  | some text => return text
  | none => throw (.ofCause context (.file .notText))

def print (line : String) : Task m Unit :=
  ExceptT.lift (Host.print line)

def note (event : Log.Event) : Task m Unit :=
  ExceptT.lift (Host.note event)

end Task

structure Workspace where
  tree : FileTree := {}
  current : Location := []
  printed : List String := []
  events : List Log.Event := []

abbrev Session := StateM Workspace

namespace Workspace

def isThere (path : Path) : Session Bool := fun workspace =>
  (workspace.tree.isThere workspace.current path, workspace)

def read (path : Path) : Session (Except FileFault ByteArray) := fun workspace =>
  (workspace.tree.read workspace.current path, workspace)

def makeDirectories (path : Path) : Session (Except FileFault Unit) := fun workspace =>
  let (result, tree) := workspace.tree.makeDirectories workspace.current path
  (result, { workspace with tree := tree })

def write (path : Path) (content : ByteArray) : Session (Except FileFault Unit) := fun workspace =>
  match workspace.tree.write workspace.current path content with
  | .ok tree => (.ok (), { workspace with tree := tree })
  | .error fault => (.error fault, workspace)

def print (line : String) : Session Unit := fun workspace =>
  ((), { workspace with printed := workspace.printed ++ [line] })

def note (event : Log.Event) : Session Unit := fun workspace =>
  ((), { workspace with events := workspace.events ++ [event] })

end Workspace

instance : Host Session where
  isThere := Workspace.isThere
  read := Workspace.read
  makeDirectories := Workspace.makeDirectories
  write := Workspace.write
  print := Workspace.print
  note := Workspace.note

end Scaffold
