import Scaffold.Json.Node
import Scaffold.Json.Value
import Scaffold.Text.Basic

/-!
JSON texts read into nodes.
-/
namespace Scaffold.Json
open Text

def isSpace (c : Char) : Bool :=
  c == ' ' || c == '\t' || c == '\n' || c == '\r'

def skipSpace (cs : List Char) : List Char :=
  cs.dropWhile isSpace

structure Read (α : Type) where
  value : α
  rest : Option (List Char)

def stopped (kept skipped : Fault) : Read Node :=
  ⟨.broken kept skipped, none⟩

def fault (cs : List Char) : Fault :=
  if cs.isEmpty then .ended else .malformed

def readWord (node : Node) : (letters rest : List Char) → Read Node
  | [], rest => ⟨node, some rest⟩
  | _ :: _, [] => stopped .ended .ended
  | letter :: letters, c :: rest =>
    if c == letter then readWord node letters rest else stopped .malformed .malformed

def digitsOf (cs : List Char) : List Char × List Char :=
  (cs.takeWhile Char.isDigit, cs.dropWhile Char.isDigit)

def readExponent (negative : Bool) (whole : List Char) (decimals : Option (List Char))
    (cs : List Char) : Read Node :=
  let done (exponent : Option (Bool × List Char)) (rest : List Char) : Read Node :=
    ⟨.number (Numeral.mk negative whole decimals exponent).number, some rest⟩
  match cs with
  | e :: rest =>
    if e == 'e' || e == 'E' then
      let (minus, rest) := match rest with
        | '+' :: rest => (false, rest)
        | '-' :: rest => (true, rest)
        | rest => (false, rest)
      let (digits, after) := digitsOf rest
      if digits.isEmpty then stopped (fault after) .malformed else done (some (minus, digits)) after
    else done none cs
  | [] => done none []

def readNumeral (negative : Bool) (cs : List Char) : Read Node :=
  let (whole, rest) := digitsOf cs
  match whole with
  | [] => stopped (fault rest) .malformed
  | '0' :: _ :: _ => stopped .malformed .malformed
  | _ =>
    match rest with
    | '.' :: rest =>
      let (decimals, after) := digitsOf rest
      if decimals.isEmpty then stopped (fault after) .malformed
      else readExponent negative whole (some decimals) after
    | rest => readExponent negative whole none rest

def isHighSurrogate (unit : Nat) : Bool :=
  0xD800 ≤ unit && unit ≤ 0xDBFF

def isLowSurrogate (unit : Nat) : Bool :=
  0xDC00 ≤ unit && unit ≤ 0xDFFF

/-- The state of reading a string: the characters so far, the latest first. After half of a
surrogate pair there is no text, and a later fault counts as `malformed` where the string is kept.
-/
structure Letters where
  text : Option (List Char)
  deriving DecidableEq, Repr

def Letters.push (letters : Letters) (c : Char) : Letters :=
  ⟨letters.text.map (c :: ·)⟩

def Letters.keptFault (letters : Letters) (fault : Fault) : Fault :=
  if letters.text.isSome then fault else .malformed

inductive StringEnd where
  | closed (text : Option String) (rest : List Char)
  | broken (kept skipped : Fault)
  deriving DecidableEq, Repr

def Letters.stop (letters : Letters) (fault : Fault) : StringEnd :=
  .broken (letters.keptFault fault) fault

def plainEscape? (c : Char) : Option Char :=
  if c == '"' || c == '\\' || c == '/' then some c
  else if c == 'b' then some '\x08'
  else if c == 'f' then some '\x0c'
  else if c == 'n' then some '\n'
  else if c == 'r' then some '\r'
  else if c == 't' then some '\t'
  else none

def readString (letters : Letters) (pending : Option Nat) : List Char → StringEnd
  | [] => letters.stop .ended
  | '\\' :: 'u' :: a :: b :: c :: d :: rest =>
    match natIn? 16 [a, b, c, d], pending with
    | none, _ => letters.stop .malformed
    | some unit, some high =>
      if isLowSurrogate unit then
        let code := 0x10000 + (high - 0xD800) * 0x400 + (unit - 0xDC00)
        readString (letters.push (Char.ofNat code)) none rest
      else if isHighSurrogate unit then readString ⟨none⟩ none rest
      else readString ⟨none⟩ none rest
    | some unit, none =>
      if isHighSurrogate unit then readString letters (some unit) rest
      else if isLowSurrogate unit then readString ⟨none⟩ none rest
      else readString (letters.push (Char.ofNat unit)) none rest
  | '\\' :: 'u' :: rest =>
    letters.stop (if (String.ofList rest).utf8ByteSize < 4 then .ended else .malformed)
  | '\\' :: [] => letters.stop .ended
  | '\\' :: c :: rest =>
    let letters : Letters := if pending.isSome then ⟨none⟩ else letters
    match plainEscape? c with
    | some character => readString (letters.push character) none rest
    | none => letters.stop .malformed
  | c :: rest =>
    let letters : Letters := if pending.isSome then ⟨none⟩ else letters
    if c == '"' then .closed (letters.text.map fun text => String.ofList text.reverse) rest
    else if c.toNat < 32 then letters.stop .malformed
    else readString (letters.push c) none rest

def openString (cs : List Char) : StringEnd :=
  readString ⟨some []⟩ none cs

mutual

/-- `fuel` bounds how many values, items and members are read; a text holds fewer than it has
characters. -/
def readValue : (fuel : Nat) → List Char → Read Node
  | 0, _ => stopped .malformed .malformed
  | fuel + 1, cs =>
    match skipSpace cs with
    | [] => stopped .ended .ended
    | 'n' :: rest => readWord .null ['u', 'l', 'l'] rest
    | 't' :: rest => readWord (.bool true) ['r', 'u', 'e'] rest
    | 'f' :: rest => readWord (.bool false) ['a', 'l', 's', 'e'] rest
    | '"' :: rest =>
      match openString rest with
      | .closed text rest => ⟨.string text, some rest⟩
      | .broken kept skipped => stopped kept skipped
    | '[' :: rest =>
      match skipSpace rest with
      | ']' :: rest => ⟨.array .closed, some rest⟩
      | rest =>
        let items := readItems fuel rest
        ⟨.array items.value, items.rest⟩
    | '\x7b' :: rest =>
      match skipSpace rest with
      | '\x7d' :: rest => ⟨.object .closed, some rest⟩
      | rest =>
        let members := readMembers fuel rest
        ⟨.object members.value, members.rest⟩
    | '-' :: rest => readNumeral true rest
    | c :: rest =>
      if c.isDigit then readNumeral false (c :: rest) else stopped .malformed .malformed

def readItems : (fuel : Nat) → List Char → Read Items
  | 0, _ => ⟨.broken .malformed, none⟩
  | fuel + 1, cs =>
    let first := readValue fuel cs
    match first.rest with
    | none => ⟨.item first.value .closed, none⟩
    | some rest =>
      match skipSpace rest with
      | ']' :: rest => ⟨.item first.value .closed, some rest⟩
      | ',' :: rest =>
        match skipSpace rest with
        | ']' :: _ => ⟨.item first.value (.broken .malformed), none⟩
        | rest =>
          let others := readItems fuel rest
          ⟨.item first.value others.value, others.rest⟩
      | rest => ⟨.item first.value (.broken (fault rest)), none⟩

def readMembers : (fuel : Nat) → List Char → Read Members
  | 0, _ => ⟨.broken .malformed .malformed, none⟩
  | fuel + 1, cs =>
    match skipSpace cs with
    | [] => ⟨.broken .ended .ended, none⟩
    | '"' :: rest =>
      match openString rest with
      | .broken kept skipped => ⟨.broken kept skipped, none⟩
      | .closed name rest =>
        match skipSpace rest with
        | ':' :: rest =>
          let value := readValue fuel rest
          match value.rest with
          | none => ⟨.member name value.value .closed, none⟩
          | some rest =>
            match skipSpace rest with
            | '\x7d' :: rest => ⟨.member name value.value .closed, some rest⟩
            | ',' :: rest =>
              let others := readMembers fuel rest
              ⟨.member name value.value others.value, others.rest⟩
            | rest =>
              ⟨.member name value.value (.broken (fault rest) (fault rest)), none⟩
        | rest => ⟨.member name (.broken (fault rest) (fault rest)) .closed, none⟩
    | _ => ⟨.broken .malformed .malformed, none⟩

end

def read (s : String) : Read Node :=
  readValue (2 * s.length + 2) s.toList

def parse? (s : String) : Option Json :=
  let text := read s
  match text.rest with
  | some rest =>
    if (skipSpace rest).isEmpty then (text.value.toJson depthLimit).toOption else none
  | none => none

end Scaffold.Json
