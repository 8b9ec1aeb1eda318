import Scaffold.Text.Basic
import Scaffold.Yaml.Cursor

/-!
Tokens, and scalars in their five styles. A line break inside a scalar is folded: alone it is a blank, and of
several the first is dropped.
-/
namespace Scaffold.Yaml
open Text

inductive Style where
  | plain
  | singleQuoted
  | doubleQuoted
  | literal
  | folded
  deriving DecidableEq, Repr

inductive Token where
  | versionDirective (major minor : Nat)
  | tagDirective (handle expansion : String)
  | documentStart
  | documentEnd
  | blockSequenceStart
  | blockMappingStart
  | blockEnd
  | flowSequenceStart
  | flowSequenceEnd
  | flowMappingStart
  | flowMappingEnd
  | blockEntry
  | flowEntry
  | key
  | value
  | alias (name : String)
  | anchor (name : String)
  | tag (handle suffix : String)
  | scalar (text : String) (style : Style)
  deriving DecidableEq, Repr

structure Gap where
  blanks : List Char := []
  broken : Bool := false
  first : List Char := []
  later : List Char := []
  deriving DecidableEq, Repr

def Gap.folded (gap : Gap) : List Char :=
  if !gap.broken then gap.blanks
  else if gap.first == ['\n'] then (if gap.later.isEmpty then [' '] else gap.later)
  else gap.later ++ gap.first

def readGap (indent : Int) : (fuel : Nat) → Cursor → Gap → Option (Gap × Cursor)
  | 0, _, _ => none
  | fuel + 1, cursor, gap =>
    match cursor.rest with
    | c :: _ =>
      if isSpace c then
        if gap.broken && cursor.column < indent && c == '\t' then none
        else
          readGap indent fuel (cursor.skip 1)
            (if gap.broken then gap else { gap with blanks := c :: gap.blanks })
      else
        match cursor.lineBreak? with
        | some (b, next) =>
          readGap indent fuel next
            (if gap.broken then { gap with later := b :: gap.later }
              else { gap with broken := true, first := [b] })
        | none => some (gap, cursor)
    | [] => some (gap, cursor)

def isFlowIndicator (c : Char) : Bool :=
  c == ',' || c == '[' || c == ']' || c == '{' || c == '}'

def readPlainWord (inFlow : Bool) : (fuel : Nat) → Cursor → List Char → Option (List Char × Cursor)
  | 0, _, _ => none
  | fuel + 1, cursor, word =>
    match cursor.rest with
    | [] => some (word, cursor)
    | c :: _ =>
      if isSpace c || isBreak c then some (word, cursor)
      else if inFlow && c == ':' && cursor.holds 1 (fun d => isFlowIndicator d || d == '?') then
        none
      else if (c == ':' && cursor.atGap 1) || (inFlow && isFlowIndicator c) then some (word, cursor)
      else readPlainWord inFlow fuel (cursor.skip 1) (c :: word)

structure PlainText where
  text : List Char
  cursor : Cursor
  atNewLine : Bool
  deriving DecidableEq, Repr

def readPlain (inFlow : Bool) (indent : Int) : (fuel : Nat) → Cursor → List Char → Gap →
    Option PlainText
  | 0, _, _, _ => none
  | fuel + 1, cursor, text, gap =>
    if cursor.seesDocumentMarker || cursor.sees '#' then some ⟨text, cursor, gap.broken⟩
    else do
      let (word, next) ← readPlainWord inFlow (cursor.rest.length + 1) cursor []
      let text := if word.isEmpty then text else word ++ (gap.folded ++ text)
      let gap := if word.isEmpty then gap else {}
      if next.atEnd || !next.atGap 0 then some ⟨text, next, gap.broken⟩
      else
        let (gap, after) ← readGap indent (next.rest.length + 1) next gap
        if !inFlow && after.column < indent then some ⟨text, after, gap.broken⟩
        else readPlain inFlow indent fuel after text gap

def readHex (width : Nat) (cs : List Char) : Option Nat :=
  if cs.length < width then none else natIn? 16 (cs.take width)

def simpleEscape? (c : Char) : Option Char :=
  match c with
  | '0' => some '\x00'
  | 'a' => some '\x07'
  | 'b' => some '\x08'
  | 't' | '\t' => some '\t'
  | 'n' => some '\n'
  | 'v' => some '\x0b'
  | 'f' => some '\x0c'
  | 'r' => some '\r'
  | 'e' => some '\x1b'
  | ' ' => some ' '
  | '"' => some '"'
  | '/' => some '/'
  | '\\' => some '\\'
  | 'N' => some (Char.ofNat 0x85)
  | '_' => some (Char.ofNat 0xA0)
  | 'L' => some (Char.ofNat 0x2028)
  | 'P' => some (Char.ofNat 0x2029)
  | _ => none

def codeWidth? (c : Char) : Option Nat :=
  match c with
  | 'x' => some 2
  | 'u' => some 4
  | 'U' => some 8
  | _ => none

def readEscape (cs : List Char) : Option (Char × Nat) :=
  match cs with
  | [] => none
  | c :: rest =>
    match simpleEscape? c, codeWidth? c with
    | some character, _ => some (character, 1)
    | none, some width => do
      let code ← readHex width rest
      if code.isValidChar then some (Char.ofNat code, 1 + width) else none
    | none, none => none

def readQuotedWord (single : Bool) : (fuel : Nat) → Cursor → List Char →
    Option (List Char × Cursor × Bool)
  | 0, _, _ => none
  | fuel + 1, cursor, word =>
    match cursor.rest with
    | [] => some (word, cursor, false)
    | c :: rest =>
      if isSpace c || isBreak c then some (word, cursor, false)
      else if single && c == '\'' then
        if rest.head? == some '\'' then readQuotedWord single fuel (cursor.skip 2) ('\'' :: word)
        else some (word, cursor, false)
      else if !single && c == '"' then some (word, cursor, false)
      else if !single && c == '\\' then
        if rest.head?.any isBreak then some (word, (cursor.skip 1).skipBreak, true)
        else
          match readEscape rest with
          | some (character, width) =>
            readQuotedWord single fuel (cursor.skip (1 + width)) (character :: word)
          | none => none
      else readQuotedWord single fuel (cursor.skip 1) (c :: word)

def readQuoted (single : Bool) : (fuel : Nat) → Cursor → List Char → Option (List Char × Cursor)
  | 0, _, _ => none
  | fuel + 1, cursor, text =>
    if cursor.seesDocumentMarker || cursor.atEnd then none
    else do
      let (word, next, escaped) ← readQuotedWord single (cursor.rest.length + 1) cursor []
      let text := word ++ text
      if next.sees (if single then '\'' else '"') then some (text, next.skip 1)
      else
        let (gap, after) ← readGap 0 (next.rest.length + 1) next { broken := escaped }
        readQuoted single fuel after (gap.folded ++ text)

/-- The empty lines before a line of a block scalar, the latest break first, and the column at
which that line starts. `indent` is 0 while the indentation is not known; a tab must not stand in
for it. -/
def readBlockBreaks (indent : Nat) : (fuel : Nat) → Cursor → (widest : Nat) → List Char →
    Option (List Char × Nat × Cursor)
  | 0, _, _, _ => none
  | fuel + 1, cursor, widest, breaks =>
    let blanks := cursor.rest.takeWhile (· == ' ')
    let wanted := if indent == 0 then blanks.length else min blanks.length (indent - cursor.column)
    let next := cursor.skip wanted
    let widest := max widest next.column
    if (indent == 0 || next.column < indent) && next.sees '\t' then none
    else
      match next.lineBreak? with
      | some (b, after) => readBlockBreaks indent fuel after widest (b :: breaks)
      | none => some (breaks, widest, next)

/-- The lines of a block scalar from a line on. `first` is the line break before it and `later`
are the empty lines after that break; all texts have the latest character first. Lines that start
with a blank are not folded. -/
def readBlockLines (isLiteral : Bool) (indent : Nat) : (fuel : Nat) → Cursor → (text : List Char) →
    (first later : List Char) → (afterBlank : Bool) →
    Option (List Char × List Char × List Char × Cursor)
  | 0, _, _, _, _, _ => none
  | fuel + 1, cursor, text, first, later, afterBlank =>
    if cursor.column == indent && !cursor.atEnd then
      let startsBlank := cursor.holds 0 isSpace
      let lead :=
        if !isLiteral && first == ['\n'] && !afterBlank && !startsBlank then
          (if later.isEmpty then [' '] else later)
        else later ++ first
      let (line, next) := cursor.takeWhile fun _ => true
      let text := line.reverse ++ (lead ++ text)
      let (first, after) := match next.lineBreak? with
        | some (b, after) => ([b], after)
        | none => ([], next)
      do
        let (later, _, after) ← readBlockBreaks indent (after.rest.length + 1) after 0 []
        readBlockLines isLiteral indent fuel after text first later startsBlank
    else some (text, first, later, cursor)

inductive Chomping where
  | strip
  | clip
  | keep
  deriving DecidableEq, Repr

structure BlockHeader where
  chomping : Chomping := .clip
  increment : Option Nat := none
  deriving DecidableEq, Repr

def chomping? (c : Char) : Option Chomping :=
  if c == '+' then some .keep else if c == '-' then some .strip else none

def readBlockHeader (cursor : Cursor) : Option (BlockHeader × Cursor) :=
  let digit? (cursor : Cursor) : Option Char := (cursor.at? 0).filter Char.isDigit
  let value (c : Char) : Nat := c.toNat - '0'.toNat
  match (cursor.at? 0).bind chomping?, digit? cursor with
  | some chomping, _ =>
    let next := cursor.skip 1
    match digit? next with
    | some '0' => none
    | some c => some (⟨chomping, some (value c)⟩, next.skip 1)
    | none => some (⟨chomping, none⟩, next)
  | none, some '0' => none
  | none, some c =>
    let next := cursor.skip 1
    match (next.at? 0).bind chomping? with
    | some chomping => some (⟨chomping, some (value c)⟩, next.skip 1)
    | none => some (⟨.clip, some (value c)⟩, next)
  | none, none => some (⟨.clip, none⟩, cursor)

def readBlock (isLiteral : Bool) (parent : Int) (cursor : Cursor) : Option (String × Cursor) := do
  let (header, next) ← readBlockHeader cursor
  let start ← next.restOfLine?
  let given : Nat := match header.increment with
    | some increment => (if parent ≥ 0 then parent + increment else increment : Int).toNat
    | none => 0
  let (later, widest, body) ← readBlockBreaks given (start.rest.length + 1) start 0 []
  let indent := if given == 0 then max (max (widest : Int) (parent + 1)) 1 |>.toNat else given
  let (text, first, later, after) ←
    readBlockLines isLiteral indent (body.rest.length + 1) body [] [] later false
  let ending := match header.chomping with
    | .strip => []
    | .clip => first
    | .keep => later ++ first
  some (String.ofList (ending ++ text).reverse, after)

end Scaffold.Yaml
