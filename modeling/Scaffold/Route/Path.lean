import Scaffold.Backend.Basic
import Scaffold.Text.Basic
import Scaffold.Text.LetterCase

/-!
Endpoint paths: their segments, the parameters among them, the module name and the router path
that a path gives, the table that it belongs to, and the names that generated TypeScript binds or reads.
-/
namespace Scaffold.Route
open Text

def segments (path : String) : List String :=
  splitAt '/' path

def between? (opening closing : Char) : List Char → Option (List Char)
  | first :: rest =>
    if first == opening && rest.getLast? == some closing then some rest.dropLast else none
  | [] => none

def parameter? (segment : String) : Option String :=
  let cs := segment.toList
  match cs with
  | ':' :: name => some (String.ofList name)
  | _ => ((between? '{' '}' cs).or (between? '[' ']' cs)).map String.ofList

def isWordChar (c : Char) : Bool :=
  c.isAlphanum || c == '_'

def sanitize (segment : String) : String :=
  String.ofList (segment.toList.map fun c => if isWordChar c then c else '_')

def slug (path : String) : String :=
  let joined := String.intercalate "_"
    (((segments path).filter (!·.isEmpty)).map fun s => sanitize ((parameter? s).getD s))
  if joined.isEmpty then "root" else joined

def filePath (path : String) : String :=
  "src/routes/" ++ slug path ++ ".ts"

def routerPath (path : String) : String :=
  String.intercalate "/" ((segments path).map fun s =>
    match parameter? s with
    | some name => ":" ++ name
    | none => s)

def withoutFinalSlashes (path : String) : String :=
  String.ofList (path.toList.reverse.dropWhile (· == '/')).reverse

structure RecordRoute where
  parameter : String
  path : String
  deriving DecidableEq, Repr

/-- The route to one record: the last parameter of the path names it; a path without parameters gets
one. -/
def recordRoute (path : String) : RecordRoute :=
  match ((segments path).filterMap parameter?).getLast? with
  | some name => ⟨sanitize name, routerPath path⟩
  | none => ⟨"id", withoutFinalSlashes (routerPath path) ++ "/:id"⟩

/-- The first table whose name occurs in the path, whatever the case of either. A table without a
name owns nothing. -/
def owner? (path : String) (tables : List Table) : Option Table :=
  let lowered := lower path
  tables.find? fun table => !table.name.isEmpty && contains lowered (lower table.name)

def reservedWords : List String :=
  ["break", "case", "catch", "class", "const", "continue", "debugger", "default", "delete", "do",
    "else", "enum", "export", "extends", "false", "finally", "for", "function", "if", "implements",
    "import", "in", "instanceof", "interface", "let", "new", "null", "package", "private",
    "protected", "public", "return", "static", "super", "switch", "this", "throw", "true", "try",
    "typeof", "var", "void", "while", "with", "yield", "await"]

def startsWithDigit (s : String) : Bool :=
  s.toList.head?.any Char.isDigit

def handlerName (slug : String) : String :=
  if startsWithDigit slug || reservedWords.contains slug then "_" ++ slug else slug

def isIdentifier (key : String) : Bool :=
  match key.toList with
  | first :: rest =>
    (first.isAlpha || first == '_' || first == '$') &&
      rest.all fun c => c.isAlphanum || c == '_' || c == '$'
  | [] => false

def accessor (model : String) : String :=
  match model.toList with
  | first :: rest => String.ofList (smallLetters first ++ rest)
  | [] => ""

end Scaffold.Route
