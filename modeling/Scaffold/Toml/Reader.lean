import Scaffold.Toml.Table
import Scaffold.Toml.Word

/-!
TOML texts read line by line.
-/
namespace Scaffold.Toml

def skipSpace (cs : List Char) : List Char :=
  cs.dropWhile isSpace

def skipComment? : List Char → Option (List Char)
  | '#' :: rest =>
    let after := rest.dropWhile isContent
    if after.isEmpty || (lineFeed? after).isSome then some after else none
  | cs => some cs

def skipLines? : (fuel : Nat) → List Char → Option (List Char)
  | 0, _ => none
  | fuel + 1, cs => do
    let rest ← skipComment? (skipSpace cs)
    match lineFeed? rest with
    | some rest => skipLines? fuel rest
    | none => return rest

def isBare (c : Char) : Bool :=
  c.isAlphanum || c == '_' || c == '-'

def simpleKey? (cs : List Char) : Option (String × List Char) :=
  match Quoting.of? cs with
  | some quoting => if quoting.long then none else quoted? quoting cs
  | none =>
    let name := cs.takeWhile isBare
    if name.isEmpty then none else some (String.ofList name, cs.dropWhile isBare)

def key? : (fuel : Nat) → List Char → Option (List String × String × List Char)
  | 0, _ => none
  | fuel + 1, cs => do
    let (name, rest) ← simpleKey? cs
    match skipSpace rest with
    | '.' :: rest =>
      let (path, last, rest) ← key? fuel (skipSpace rest)
      return (name :: path, last, rest)
    | rest => return ([], name, rest)

def isWord (c : Char) : Bool :=
  isBare c || c == '.' || c == ':' || c == '+'

def plain? (cs : List Char) : Option (List Char) :=
  let word := cs.takeWhile isWord
  let rest := cs.dropWhile isWord
  let joined := match rest with
    | ' ' :: after => if isDate word then word ++ ' ' :: after.takeWhile isWord else word
    | _ => word
  if isMoment joined then some (cs.drop joined.length)
  else if isPlain word then some rest
  else none

def depthLimit : Nat := 80

mutual

def value? : (fuel depth : Nat) → List Char → Option (Item × List Char)
  | 0, _, _ => none
  | fuel + 1, depth, cs =>
    match Quoting.of? cs, cs with
    | some quoting, _ => (quoted? quoting cs).map fun (text, rest) => (.text text, rest)
    | none, '[' :: rest =>
      if depth == 0 then none
      else (items? fuel (depth - 1) rest).map fun (items, rest) => (.array items, rest)
    | none, '\x7b' :: rest =>
      if depth == 0 then none
      else (entries? fuel (depth - 1) rest []).map fun (entries, rest) =>
        (.table .braced entries, rest)
    | none, _ => (plain? cs).map fun rest => (.plain, rest)

def items? : (fuel depth : Nat) → List Char → Option (List Item × List Char)
  | 0, _, _ => none
  | fuel + 1, depth, cs => do
    match ← skipLines? (cs.length + 1) cs with
    | ']' :: rest => return ([], rest)
    | start =>
      let (item, rest) ← value? fuel depth start
      match ← skipLines? (rest.length + 1) rest with
      | ',' :: rest =>
        let (items, rest) ← items? fuel depth rest
        return (item :: items, rest)
      | ']' :: rest => return ([item], rest)
      | _ => none

def entries? : (fuel depth : Nat) → List Char → Entries → Option (Entries × List Char)
  | 0, _, _, _ => none
  | fuel + 1, depth, cs, entries => do
    match ← skipLines? (cs.length + 1) cs with
    | '\x7d' :: rest => return (entries, rest)
    | start =>
      let (path, name, rest) ← key? start.length start
      match rest with
      | '=' :: rest =>
        let (item, rest) ← value? fuel depth (skipSpace rest)
        let entries ← Entries.assign path name item entries
        match ← skipLines? (rest.length + 1) rest with
        | ',' :: rest => entries? fuel depth rest entries
        | '\x7d' :: rest => return (entries, rest)
        | _ => none
      | _ => none

end

def assignment? (cs : List Char) : Option (Line × List Char) := do
  let (path, name, rest) ← key? cs.length cs
  match rest with
  | '=' :: rest =>
    let (item, rest) ← value? cs.length depthLimit (skipSpace rest)
    return (.assignment path name item, rest)
  | _ => none

def line? (cs : List Char) : Option (Line × List Char) :=
  match cs with
  | '[' :: '[' :: rest => do
    let (path, name, rest) ← key? rest.length (skipSpace rest)
    match rest with
    | ']' :: ']' :: rest => return (.nextHeader path name, rest)
    | _ => none
  | '[' :: rest => do
    let (path, name, rest) ← key? rest.length (skipSpace rest)
    match rest with
    | ']' :: rest => return (.header path name, rest)
    | _ => none
  | _ => assignment? cs

def lines? : (fuel : Nat) → List Char → Option (List Line)
  | 0, _ => none
  | fuel + 1, cs => do
    match ← skipLines? (cs.length + 1) cs with
    | [] => return []
    | start =>
      let (line, rest) ← line? start
      match ← skipComment? (skipSpace rest) with
      | [] => return [line]
      | rest =>
        let rest ← lineFeed? rest
        let lines ← lines? fuel rest
        return line :: lines

def byteOrderMark : Char := Char.ofNat 0xFEFF

def Entries.ofText? (s : String) : Option Entries := do
  let cs := match s.toList with
    | c :: rest => if c == byteOrderMark then rest else c :: rest
    | [] => []
  Entries.ofLines? (← lines? (cs.length + 1) cs)

end Scaffold.Toml
