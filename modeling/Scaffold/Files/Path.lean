import Scaffold.Text.Basic

/-!
Paths as they are written. A path keeps its text; what it names are its segments.
-/
namespace Scaffold
open Text

structure Path where
  text : String
  deriving DecidableEq, Repr

namespace Path

def isIdle (piece : String) : Bool :=
  piece == "" || piece == "."

def isAbsolute (path : Path) : Bool :=
  path.text.toList.head? == some '/'

def endsInSlash (path : Path) : Bool :=
  path.text.toList.getLast? == some '/'

def pieces (path : Path) : List String :=
  splitAt '/' path.text

/-- Names, and `..` for the place above, from left to right. -/
def segments (path : Path) : List String :=
  path.pieces.filter (!isIdle ·)

def endsIdle (path : Path) : Bool :=
  path.pieces.getLast?.any isIdle

def push (path : Path) (segment : String) : Path :=
  if path.text.isEmpty || path.endsInSlash then ⟨path.text ++ segment⟩
  else ⟨path.text ++ "/" ++ segment⟩

def dropIdleEnd (pieces : List String) : List String :=
  (pieces.reverse.dropWhile isIdle).reverse

/-- Pieces back in one text. What names nothing is left out at the end, though not all that a path
has. -/
def ofPieces (absolute : Bool) (pieces : List String) : Path :=
  match dropIdleEnd pieces with
  | [] => if absolute then ⟨"/"⟩ else if pieces.head? == some "." then ⟨"."⟩ else ⟨""⟩
  | kept => ⟨String.intercalate "/" kept⟩

def parent? (path : Path) : Option Path :=
  match dropIdleEnd path.pieces with
  | [] => if !path.isAbsolute && path.pieces.head? == some "." then some ⟨""⟩ else none
  | kept => some (ofPieces path.isAbsolute kept.dropLast)

def fileName? (path : Path) : Option String :=
  path.segments.getLast?.filter (· != "..")

def extension? (path : Path) : Option String := do
  let name ← path.fileName?
  match (splitAt '.' name).reverse with
  | _ :: [""] | [_] | [] => none
  | last :: _ => some last

end Path
end Scaffold
