import Scaffold.Files.Path

/-!
A tree of directories and files, and what reading and writing do to it. There are no links, so
`..` is always the directory above.
-/
namespace Scaffold

/-- Names from the deepest to the topmost directory. -/
abbrev Location := List String

inductive Entry where
  | directory
  | file (content : ByteArray)

inductive FileFault where
  | notFound
  | alreadyThere
  | notDirectory
  | isDirectory
  | notText
  | nameTooLong
  | badPath
  | other (message : String)
  deriving DecidableEq, Repr

def FileFault.message : FileFault → String
  | notFound => "No such file or directory (os error 2)"
  | alreadyThere => "File exists (os error 17)"
  | notDirectory => "Not a directory (os error 20)"
  | isDirectory => "Is a directory (os error 21)"
  | nameTooLong => "File name too long (os error 36)"
  | notText => "stream did not contain valid UTF-8"
  | badPath => "file name contained an unexpected NUL byte"
  | other message => message

/-- What stands where; the topmost directory is not listed. -/
structure FileTree where
  entries : List (Location × Entry) := []
  nameLimit : Option Nat := none

namespace FileTree

def entry? (tree : FileTree) (location : Location) : Option Entry :=
  if location.isEmpty then some .directory else tree.entries.lookup location

def putEntry (location : Location) (entry : Entry) :
    List (Location × Entry) → List (Location × Entry)
  | [] => [(location, entry)]
  | (other, old) :: rest =>
    if other == location then (location, entry) :: rest
    else (other, old) :: putEntry location entry rest

def put (tree : FileTree) (location : Location) (entry : Entry) : FileTree :=
  { tree with entries := putEntry location entry tree.entries }

def fits (tree : FileTree) (segment : String) : Bool :=
  tree.nameLimit.all (segment.utf8ByteSize ≤ ·)

def step (here : Location) (segment : String) : Location :=
  if segment == ".." then here.tail else segment :: here

def walk (tree : FileTree) : Location → List String → Except FileFault Location
  | here, [] => .ok here
  | here, segment :: rest =>
    match tree.entry? here with
    | some .directory =>
      if tree.fits segment then walk tree (step here segment) rest else .error .nameTooLong
    | some (.file _) => .error .notDirectory
    | none => .error .notFound

def origin (current : Location) (path : Path) : Location :=
  if path.isAbsolute then [] else current

def locate (tree : FileTree) (current : Location) (path : Path) : Except FileFault Location :=
  if path.text.toList.contains '\x00' then .error .badPath
  else if path.text.isEmpty then .error .notFound
  else tree.walk (origin current path) path.segments

def find (tree : FileTree) (current : Location) (path : Path) : Except FileFault Entry := do
  let location ← tree.locate current path
  match tree.entry? location with
  | none => .error .notFound
  | some .directory => .ok .directory
  | some (.file content) => if path.endsIdle then .error .notDirectory else .ok (.file content)

def isThere (tree : FileTree) (current : Location) (path : Path) : Bool :=
  (tree.find current path).isOk

def read (tree : FileTree) (current : Location) (path : Path) : Except FileFault ByteArray := do
  match ← tree.find current path with
  | .directory => .error .isDirectory
  | .file content => .ok content

def write (tree : FileTree) (current : Location) (path : Path) (content : ByteArray) :
    Except FileFault FileTree := do
  let location ← tree.locate current path
  match tree.entry? location with
  | some .directory => .error .isDirectory
  | some (.file _) =>
    if path.endsInSlash then .error .isDirectory
    else if path.endsIdle then .error .notDirectory
    else .ok (tree.put location (.file content))
  | none =>
    if path.endsInSlash then .error .isDirectory
    else if path.endsIdle then .error .notFound
    else .ok (tree.put location (.file content))

def makeAlong (tree : FileTree) : Location → List String → Except FileFault Unit × FileTree
  | _, [] => (.ok (), tree)
  | here, segment :: rest =>
    let next := step here segment
    match tree.entry? next with
    | some .directory => makeAlong tree next rest
    | some (.file _) => (.error (if rest.isEmpty then .alreadyThere else .notDirectory), tree)
    | none =>
      if tree.fits segment then makeAlong (tree.put next .directory) next rest
      else (.error .nameTooLong, tree)

def makeDirectories (tree : FileTree) (current : Location) (path : Path) :
    Except FileFault Unit × FileTree :=
  if path.text.toList.contains '\x00' then (.error .badPath, tree)
  else tree.makeAlong (origin current path) path.segments

end FileTree
end Scaffold
