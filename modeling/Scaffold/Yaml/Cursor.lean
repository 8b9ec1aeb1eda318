/-!
A place in a YAML text: what is left to read, and where that is. Lines and columns decide the
layout.
-/
namespace Scaffold.Yaml

def isAllowed (c : Char) : Bool :=
  let code := c.toNat
  code == 0x09 || code == 0x0A || code == 0x0D || (0x20 ≤ code && code ≤ 0x7E) || code == 0x85 ||
    (0xA0 ≤ code && code ≤ 0xFFFD) || 0x10000 ≤ code

def isSpace (c : Char) : Bool :=
  c == ' ' || c == '\t'

def isBreak (c : Char) : Bool :=
  c == '\n' || c == '\r' || c.toNat == 0x85 || c.toNat == 0x2028 || c.toNat == 0x2029

def byteOrderMark : Char := Char.ofNat 0xFEFF

def isName (c : Char) : Bool :=
  c.isAlphanum || c == '_' || c == '-'

structure Cursor where
  rest : List Char
  index : Nat := 0
  line : Nat := 0
  column : Nat := 0
  deriving DecidableEq, Repr

namespace Cursor

def ofText (s : String) : Cursor :=
  match s.toList with
  | c :: rest => if c == byteOrderMark then ⟨rest, 0, 0, 0⟩ else ⟨c :: rest, 0, 0, 0⟩
  | [] => ⟨[], 0, 0, 0⟩

def skip (cursor : Cursor) (count : Nat) : Cursor :=
  { cursor with
    rest := cursor.rest.drop count
    index := cursor.index + count
    column := cursor.column + count }

def nextLine (cursor : Cursor) (width : Nat) : Cursor :=
  ⟨cursor.rest.drop width, cursor.index + width, cursor.line + 1, 0⟩

def lineBreak? (cursor : Cursor) : Option (Char × Cursor) :=
  match cursor.rest with
  | '\r' :: '\n' :: _ => some ('\n', cursor.nextLine 2)
  | c :: _ =>
    if c == '\n' || c == '\r' || c.toNat == 0x85 then some ('\n', cursor.nextLine 1)
    else if isBreak c then some (c, cursor.nextLine 1)
    else none
  | [] => none

def skipBreak (cursor : Cursor) : Cursor :=
  match cursor.lineBreak? with
  | some (_, next) => next
  | none => cursor

def takeWhile (cursor : Cursor) (p : Char → Bool) : List Char × Cursor :=
  let taken := cursor.rest.takeWhile fun c => p c && !isBreak c
  (taken, cursor.skip taken.length)

def skipWhile (cursor : Cursor) (p : Char → Bool) : Cursor :=
  (cursor.takeWhile p).2

def at? (cursor : Cursor) (offset : Nat) : Option Char :=
  cursor.rest[offset]?

def atEnd (cursor : Cursor) : Bool :=
  cursor.rest.isEmpty

def holds (cursor : Cursor) (offset : Nat) (p : Char → Bool) : Bool :=
  (cursor.at? offset).any p

def sees (cursor : Cursor) (c : Char) : Bool :=
  cursor.holds 0 (· == c)

def atLineEnd (cursor : Cursor) (offset : Nat) : Bool :=
  (cursor.at? offset).all isBreak

def atGap (cursor : Cursor) (offset : Nat) : Bool :=
  (cursor.at? offset).all fun c => isSpace c || isBreak c

def seesMarker (cursor : Cursor) (c : Char) : Bool :=
  cursor.column == 0 && [c, c, c].isPrefixOf cursor.rest && cursor.atGap 3

def seesDocumentMarker (cursor : Cursor) : Bool :=
  cursor.seesMarker '-' || cursor.seesMarker '.'

def skipComment (cursor : Cursor) : Cursor :=
  if cursor.sees '#' then cursor.skipWhile fun _ => true else cursor

def restOfLine? (cursor : Cursor) : Option Cursor :=
  let after := (cursor.skipWhile isSpace).skipComment
  if after.atLineEnd 0 then some after.skipBreak else none

end Cursor
end Scaffold.Yaml
