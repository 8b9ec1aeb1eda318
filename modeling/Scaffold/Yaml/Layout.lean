import Scaffold.Yaml.Scalar

/-!
A YAML text as tokens. Indentation opens and closes blocks. A key shows itself only by the colon
after it, so the place of whatever may be a key is remembered, and the tokens that open it are put
in there when the colon comes.
-/
namespace Scaffold.Yaml

structure KeyPlace where
  isDue : Bool
  position : Nat
  index : Nat
  line : Nat
  column : Nat
  deriving DecidableEq, Repr

structure Layout where
  cursor : Cursor
  tokens : Array Token := #[]
  flow : Nat := 0
  indent : Int := -1
  outer : List Int := []
  keyAllowed : Bool := true
  keys : List (Option KeyPlace) := [none]
  deriving Repr

namespace Layout

def push (layout : Layout) (token : Token) : Layout :=
  { layout with tokens := layout.tokens.push token }

def insert (layout : Layout) (position : Nat) (token : Token) : Layout :=
  { layout with tokens := layout.tokens.insertIdxIfInBounds position token }

def skipFiller : (fuel : Nat) → Layout → Layout
  | 0, layout => layout
  | fuel + 1, layout =>
    let cursor := layout.cursor
    let cursor := if cursor.column == 0 && cursor.sees byteOrderMark then cursor.skip 1 else cursor
    let tabs := layout.flow > 0 || !layout.keyAllowed
    let cursor := (cursor.skipWhile fun c => c == ' ' || (tabs && c == '\t')).skipComment
    match cursor.lineBreak? with
    | some (_, next) =>
      skipFiller fuel
        { layout with cursor := next, keyAllowed := layout.keyAllowed || layout.flow == 0 }
    | none => { layout with cursor := cursor }

def isStale (cursor : Cursor) (place : KeyPlace) : Bool :=
  place.line < cursor.line || place.index + 1024 < cursor.index

def dropStale (layout : Layout) : Option Layout := do
  let keys ← layout.keys.mapM fun key =>
    match key with
    | some place =>
      if isStale layout.cursor place then (if place.isDue then none else some none)
      else some (some place)
    | none => some none
  some { layout with keys := keys }

def forgetKey (layout : Layout) : Option Layout :=
  match layout.keys with
  | some place :: rest => if place.isDue then none else some { layout with keys := none :: rest }
  | _ => some layout

def markKey (layout : Layout) : Option Layout :=
  if layout.keyAllowed then do
    let layout ← layout.forgetKey
    let cursor := layout.cursor
    let isDue := layout.flow == 0 && layout.indent == cursor.column
    let place : KeyPlace :=
      ⟨isDue, layout.tokens.size, cursor.index, cursor.line, cursor.column⟩
    some { layout with keys := some place :: layout.keys.drop 1 }
  else some layout

def openBlock (layout : Layout) (column position : Nat) (token : Token) : Layout :=
  if layout.flow == 0 && layout.indent < column then
    { layout with outer := layout.indent :: layout.outer, indent := column }.insert position token
  else layout

def closeAll (column : Int) : (outer : List Int) → (indent : Int) → Array Token →
    List Int × Int × Array Token
  | [], indent, tokens => ([], indent, tokens)
  | next :: outer, indent, tokens =>
    if indent > column then closeAll column outer next (tokens.push .blockEnd)
    else (next :: outer, indent, tokens)

def closeBlocks (layout : Layout) (column : Int) : Layout :=
  if layout.flow > 0 then layout
  else
    let (outer, indent, tokens) := closeAll column layout.outer layout.indent layout.tokens
    { layout with outer := outer, indent := indent, tokens := tokens }

def skip (layout : Layout) (count : Nat) : Layout :=
  { layout with cursor := layout.cursor.skip count }

def withKeys (layout : Layout) (allowed : Bool) : Layout :=
  { layout with keyAllowed := allowed }

def readNumber (cursor : Cursor) : Option (Nat × Cursor) :=
  let (digits, next) := cursor.takeWhile Char.isDigit
  if digits.isEmpty || digits.length > 9 then none
  else some (digits.foldl (fun n c => 10 * n + (c.toNat - '0'.toNat)) 0, next)

def readHandle (strict : Bool) (cursor : Cursor) : Option (List Char × Cursor) :=
  if cursor.sees '!' then
    let (name, next) := (cursor.skip 1).takeWhile isName
    if next.sees '!' then some ('!' :: (name ++ ['!']), next.skip 1)
    else if strict && !name.isEmpty then none
    else some ('!' :: name, next)
  else none

def isUriChar (full : Bool) (c : Char) : Bool :=
  isName c || [';', '/', '?', ':', '@', '&', '=', '+', '$', '.', '%', '!', '~', '*', '\'', '(',
    ')'].contains c || (full && [',', '[', ']'].contains c)

def escapedByte? : List Char → Option (UInt8 × List Char)
  | '%' :: a :: b :: rest => do
    let value ← readHex 2 [a, b]
    some (UInt8.ofNat value, rest)
  | _ => none

def byteWidth? (first : UInt8) : Option Nat :=
  if first < 0x80 then some 1
  else if first < 0xC0 then none
  else if first < 0xE0 then some 2
  else if first < 0xF0 then some 3
  else if first < 0xF8 then some 4
  else none

def escapedBytes? : (count : Nat) → List Char → Option (List UInt8 × List Char)
  | 0, cs => some ([], cs)
  | count + 1, cs => do
    let (byte, rest) ← escapedByte? cs
    let (bytes, rest) ← escapedBytes? count rest
    some (byte :: bytes, rest)

def escapedCharacter? (cs : List Char) : Option (String × List Char) := do
  let (first, _) ← escapedByte? cs
  let width ← byteWidth? first
  let (bytes, rest) ← escapedBytes? width cs
  let character ← String.fromUTF8? ⟨bytes.toArray⟩
  some (character, rest)

def decodeUri : (fuel : Nat) → List Char → Option String
  | 0, _ => none
  | _ + 1, [] => some ""
  | fuel + 1, '%' :: rest => do
    let (character, rest) ← escapedCharacter? ('%' :: rest)
    let others ← decodeUri fuel rest
    some (character ++ others)
  | fuel + 1, c :: rest => (decodeUri fuel rest).map (String.singleton c ++ ·)

def readUri (full : Bool) (cursor : Cursor) : Option (String × Cursor) := do
  let (cs, next) := cursor.takeWhile (isUriChar full)
  let text ← decodeUri (cs.length + 1) cs
  some (text, next)

def readDirective (layout : Layout) : Option Layout := do
  let (name, next) := (layout.cursor.skip 1).takeWhile isName
  if !next.atGap 0 then none
  let start := next.skipWhile isSpace
  let (token, next) ←
    if name == ['Y', 'A', 'M', 'L'] then do
      let (major, next) ← readNumber start
      if !next.sees '.' then none
      let (minor, next) ← readNumber (next.skip 1)
      some (Token.versionDirective major minor, next)
    else if name == ['T', 'A', 'G'] then do
      let (handle, next) ← readHandle true start
      if !next.holds 0 isSpace then none
      let (expansion, next) ← readUri true (next.skipWhile isSpace)
      if expansion.isEmpty || !next.atGap 0 then none
      some (Token.tagDirective (String.ofList handle) expansion, next)
    else none
  let after ← next.restOfLine?
  some ({ layout with cursor := after }.push token)

def endsName (c : Char) : Bool :=
  ['?', ':', ',', ']', '}', '%', '@', '\x60'].contains c

def readAnchor (cursor : Cursor) : Option (String × Cursor) :=
  let (name, next) := (cursor.skip 1).takeWhile isName
  if !name.isEmpty && (next.atGap 0 || next.holds 0 endsName) then some (String.ofList name, next)
  else none

def readTag (inFlow : Bool) (cursor : Cursor) : Option (Token × Cursor) := do
  let (token, next) ←
    if cursor.holds 1 (· == '<') then do
      let (suffix, next) ← readUri true (cursor.skip 2)
      if suffix.isEmpty || !next.sees '>' then none
      some (Token.tag "" suffix, next.skip 1)
    else do
      let (handle, next) ← readHandle false cursor
      if handle.length > 1 && handle.getLast? == some '!' then do
        let (suffix, next) ← readUri false next
        if suffix.isEmpty then none
        some (Token.tag (String.ofList handle) suffix, next)
      else do
        let (others, next) ← readUri false next
        let suffix := String.ofList (handle.drop 1) ++ others
        some (if suffix.isEmpty then Token.tag "" "!" else Token.tag "!" suffix, next)
  if next.atGap 0 || (inFlow && next.sees ',') then some (token, next) else none

def atTextEnd (layout : Layout) : Option Layout :=
  (layout.closeBlocks (-1)).forgetKey

def readMarker (layout : Layout) (token : Token) : Option Layout := do
  let layout ← (layout.closeBlocks (-1)).forgetKey
  some (((layout.withKeys false).skip 3).push token)

def openFlow (layout : Layout) (token : Token) : Option Layout := do
  let layout ← layout.markKey
  let inner :=
    { layout with keys := none :: layout.keys, flow := layout.flow + 1, keyAllowed := true }
  some ((inner.skip 1).push token)

def closeFlow (layout : Layout) (token : Token) : Option Layout := do
  let layout ← layout.forgetKey
  let layout := if layout.flow > 0 then
    { layout with keys := layout.keys.drop 1, flow := layout.flow - 1 } else layout
  some (((layout.withKeys false).skip 1).push token)

def readFlowEntry (layout : Layout) : Option Layout := do
  let layout ← layout.forgetKey
  some (((layout.withKeys true).skip 1).push .flowEntry)

def readBlockEntry (layout : Layout) : Option Layout := do
  if layout.flow == 0 && !layout.keyAllowed then none
  let column := layout.cursor.column
  let layout ← (layout.openBlock column layout.tokens.size .blockSequenceStart).forgetKey
  some (((layout.withKeys true).skip 1).push .blockEntry)

def readKey (layout : Layout) : Option Layout := do
  if layout.flow == 0 && !layout.keyAllowed then none
  let column := layout.cursor.column
  let layout ← (layout.openBlock column layout.tokens.size .blockMappingStart).forgetKey
  some (((layout.withKeys (layout.flow == 0)).skip 1).push .key)

def readValue (layout : Layout) : Option Layout :=
  match layout.keys with
  | some place :: rest =>
    let layout := (layout.insert place.position .key).openBlock place.column place.position
      .blockMappingStart
    some (({ layout with keys := none :: rest, keyAllowed := false }.skip 1).push .value)
  | _ =>
    if layout.flow == 0 && !layout.keyAllowed then none
    else
      let layout := layout.openBlock layout.cursor.column layout.tokens.size .blockMappingStart
      some (((layout.withKeys (layout.flow == 0)).skip 1).push .value)

def readName (layout : Layout) (token : String → Token) : Option Layout := do
  let layout ← layout.markKey
  let (name, next) ← readAnchor layout.cursor
  some ({ layout with cursor := next, keyAllowed := false }.push (token name))

def readTagToken (layout : Layout) : Option Layout := do
  let layout ← layout.markKey
  let (token, next) ← readTag (layout.flow > 0) layout.cursor
  some ({ layout with cursor := next, keyAllowed := false }.push token)

def readBlockScalar (layout : Layout) (isLiteral : Bool) : Option Layout := do
  let layout ← layout.forgetKey
  let (text, next) ← readBlock isLiteral layout.indent (layout.cursor.skip 1)
  let style : Style := if isLiteral then .literal else .folded
  some ({ layout with cursor := next, keyAllowed := true }.push (.scalar text style))

def readQuotedScalar (layout : Layout) (single : Bool) : Option Layout := do
  let layout ← layout.markKey
  let cursor := layout.cursor.skip 1
  let (text, next) ← readQuoted single (cursor.rest.length + 1) cursor []
  let style : Style := if single then .singleQuoted else .doubleQuoted
  some ({ layout with cursor := next, keyAllowed := false }.push
    (.scalar (String.ofList text.reverse) style))

def readPlainScalar (layout : Layout) : Option Layout := do
  let layout ← layout.markKey
  let cursor := layout.cursor
  let plain ← readPlain (layout.flow > 0) (layout.indent + 1) (cursor.rest.length + 1) cursor [] {}
  some ({ layout with cursor := plain.cursor, keyAllowed := plain.atNewLine }.push
    (.scalar (String.ofList plain.text.reverse) .plain))

def isIndicator (c : Char) : Bool :=
  ['-', '?', ':', ',', '[', ']', '{', '}', '#', '&', '*', '!', '|', '>', '\'', '"', '%', '@',
    '\x60'].contains c

def startsPlain (layout : Layout) (c : Char) : Bool :=
  !isIndicator c || (c == '-' && !layout.cursor.holds 1 isSpace) ||
    (layout.flow == 0 && (c == '?' || c == ':') && !layout.cursor.atGap 1)

def readToken (layout : Layout) (c : Char) : Option Layout :=
  let cursor := layout.cursor
  let inFlow := layout.flow > 0
  if cursor.column == 0 && c == '%' then do
    let layout ← (layout.closeBlocks (-1)).forgetKey
    (layout.withKeys false).readDirective
  else if cursor.seesMarker '-' then layout.readMarker .documentStart
  else if cursor.seesMarker '.' then layout.readMarker .documentEnd
  else if c == '[' then layout.openFlow .flowSequenceStart
  else if c == '{' then layout.openFlow .flowMappingStart
  else if c == ']' then layout.closeFlow .flowSequenceEnd
  else if c == '}' then layout.closeFlow .flowMappingEnd
  else if c == ',' then layout.readFlowEntry
  else if c == '-' && cursor.atGap 1 then layout.readBlockEntry
  else if c == '?' && (inFlow || cursor.atGap 1) then layout.readKey
  else if c == ':' && (inFlow || cursor.atGap 1) then layout.readValue
  else if c == '*' then layout.readName .alias
  else if c == '&' then layout.readName .anchor
  else if c == '!' then layout.readTagToken
  else if c == '|' && !inFlow then layout.readBlockScalar true
  else if c == '>' && !inFlow then layout.readBlockScalar false
  else if c == '\'' then layout.readQuotedScalar true
  else if c == '"' then layout.readQuotedScalar false
  else if layout.startsPlain c && !isSpace c then layout.readPlainScalar
  else none

def readAll : (fuel : Nat) → Layout → Option Layout
  | 0, _ => none
  | fuel + 1, layout => do
    let layout ← (layout.skipFiller (layout.cursor.rest.length + 1)).dropStale
    let layout := layout.closeBlocks layout.cursor.column
    match layout.cursor.rest with
    | [] => layout.atTextEnd
    | c :: _ =>
      let next ← layout.readToken c
      readAll fuel next

end Layout

def tokens? (s : String) : Option (List Token) :=
  let cursor := Cursor.ofText s
  if cursor.rest.all isAllowed then
    (Layout.readAll (cursor.rest.length + 1) { cursor := cursor }).map (·.tokens.toList)
  else none

end Scaffold.Yaml
