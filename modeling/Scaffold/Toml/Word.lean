import Scaffold.Decimal.Double
import Scaffold.Text.Basic

/-!
Words of a TOML text: quoted texts, numbers, truth values and points in time.
-/
namespace Scaffold.Toml
open Text

def isSpace (c : Char) : Bool :=
  c == ' ' || c == '\t'

def isContent (c : Char) : Bool :=
  c == '\t' || (32 ≤ c.toNat && c.toNat ≠ 0x7F)

def lineFeed? : List Char → Option (List Char)
  | '\n' :: rest => some rest
  | '\r' :: '\n' :: rest => some rest
  | _ => none

structure Quoting where
  quote : Char
  long : Bool
  deriving DecidableEq, Repr

def Quoting.width (quoting : Quoting) : Nat :=
  if quoting.long then 3 else 1

inductive Escape where
  | none
  | started
  | code (left value : Nat)
  | folding (broken : Bool)
  deriving DecidableEq, Repr

inductive Progress where
  | more (letters : List Char) (escape : Escape)
  | closed (letters : List Char) (skipped : Nat)
  deriving DecidableEq, Repr

def simpleEscape? (c : Char) : Option Char :=
  match c with
  | 'b' => some '\x08'
  | 't' => some '\t'
  | 'n' => some '\n'
  | 'f' => some '\x0c'
  | 'r' => some '\r'
  | 'e' => some '\x1b'
  | '"' => some '"'
  | '\\' => some '\\'
  | _ => Option.none

def codeLength? (c : Char) : Option Nat :=
  match c with
  | 'x' => some 2
  | 'u' => some 4
  | 'U' => some 8
  | _ => Option.none

/-- Up to two quotes may stand before the three that close a long text. -/
def letter? (quoting : Quoting) (c : Char) (rest : List Char) : Option Progress :=
  if c == quoting.quote then
    if quoting.long then
      let run := 1 + (rest.takeWhile (· == c)).length
      if run < 3 then some (.more [c] .none)
      else
        let kept := min (run - 3) 2
        some (.closed (List.replicate kept c) (kept + 2))
    else some (.closed [] 0)
  else if c == '\\' && quoting.quote == '"' then some (.more [] .started)
  else if quoting.long && (lineFeed? (c :: rest)).isSome then some (.more [c] .none)
  else if isContent c then some (.more [c] .none)
  else Option.none

def codePoint? (code : Nat) : Option Char :=
  if code.isValidChar then some (Char.ofNat code) else Option.none

def step? (quoting : Quoting) (c : Char) (rest : List Char) : Escape → Option Progress
  | .none => letter? quoting c rest
  | .started =>
    match simpleEscape? c, codeLength? c with
    | some letter, _ => some (.more [letter] .none)
    | Option.none, some length => some (.more [] (.code length 0))
    | Option.none, Option.none =>
      if !quoting.long then Option.none
      else if isSpace c then some (.more [] (.folding false))
      else if c == '\n' then some (.more [] (.folding true))
      else if (lineFeed? (c :: rest)).isSome then some (.more [] (.folding false))
      else Option.none
  | .code left value => do
    let digit ← hexValue? c
    let value := 16 * value + digit
    if left ≤ 1 then return .more [← codePoint? value] .none
    else return .more [] (.code (left - 1) value)
  | .folding broken =>
    if isSpace c then some (.more [] (.folding broken))
    else if c == '\n' then some (.more [] (.folding true))
    else if (lineFeed? (c :: rest)).isSome then some (.more [] (.folding broken))
    else if broken then letter? quoting c rest
    else Option.none

def readQuoted (quoting : Quoting) : Escape → (letters : List Char) → List Char →
    Option (String × List Char)
  | _, _, [] => none
  | escape, letters, c :: rest =>
    match step? quoting c rest escape with
    | some (.more added escape) => readQuoted quoting escape (added ++ letters) rest
    | some (.closed added skipped) =>
      some (String.ofList (added ++ letters).reverse, rest.drop skipped)
    | none => none

def Quoting.of? : List Char → Option Quoting
  | '"' :: '"' :: '"' :: _ => some ⟨'"', true⟩
  | '\'' :: '\'' :: '\'' :: _ => some ⟨'\'', true⟩
  | '"' :: _ => some ⟨'"', false⟩
  | '\'' :: _ => some ⟨'\'', false⟩
  | _ => none

def quoted? (quoting : Quoting) (cs : List Char) : Option (String × List Char) :=
  let inside := cs.drop quoting.width
  let inside := if quoting.long then (lineFeed? inside).getD inside else inside
  readQuoted quoting .none [] inside

def ungrouped? (isDigit : Char → Bool) (cs : List Char) : Option (List Char) :=
  let groups := cs.splitOn '_'
  if groups.all fun group => !group.isEmpty && group.all isDigit then some groups.flatten else none

def splitSign : List Char → Option Bool × List Char
  | '+' :: rest => (some false, rest)
  | '-' :: rest => (some true, rest)
  | cs => (none, cs)

def wholeDigits? (cs : List Char) : Option (List Char) := do
  let digits ← ungrouped? Char.isDigit cs
  match digits with
  | '0' :: _ :: _ => none
  | _ => some digits

def isInteger (cs : List Char) : Bool :=
  let inBase (base : Nat) (digits : List Char) : Bool :=
    ((ungrouped? (fun c => (digitIn? base c).isSome) digits).bind (natIn? base)).any
      (· < Nat.pow 2 63)
  match splitSign cs with
  | (none, '0' :: 'x' :: digits) => inBase 16 digits
  | (none, '0' :: 'o' :: digits) => inBase 8 digits
  | (none, '0' :: 'b' :: digits) => inBase 2 digits
  | (sign, digits) =>
    let limit := if sign == some true then Nat.pow 2 63 + 1 else Nat.pow 2 63
    ((wholeDigits? digits).bind (natIn? 10)).any (· < limit)

def isFraction (cs : List Char) : Bool :=
  let (sign, cs) := splitSign cs
  let isExponent (c : Char) : Bool := c == 'e' || c == 'E'
  let number := cs.takeWhile (!isExponent ·)
  let whole := number.takeWhile (· != '.')
  let power? : Option Int := match cs.dropWhile (!isExponent ·) with
    | [] => if whole.length == number.length then none else some 0
    | _ :: power => do
      let (sign, power) := splitSign power
      let size ← (ungrouped? Char.isDigit power).bind (natIn? 10)
      return if sign == some true then -(size : Int) else size
  let decimals? : Option (List Char) := match number.drop whole.length with
    | [] => some []
    | _ :: decimals => ungrouped? Char.isDigit decimals
  match wholeDigits? whole, decimals?, power? with
  | some whole, some decimals, some power =>
    (Double.ofDecimal (sign == some true) ((natIn? 10 (whole ++ decimals)).getD 0)
      (power - decimals.length)).isSome
  | _, _, _ => cs == ['i', 'n', 'f'] || cs == ['n', 'a', 'n']

def isPair (greatest : Nat) (cs : List Char) : Bool :=
  cs.length == 2 && cs.all Char.isDigit && (natIn? 10 cs).any (· ≤ greatest)

def isLeapYear (year : Nat) : Bool :=
  year % 4 == 0 && (year % 100 != 0 || year % 400 == 0)

def daysIn (year month : Nat) : Nat :=
  if month == 2 then if isLeapYear year then 29 else 28
  else if [4, 6, 9, 11].contains month then 30
  else 31

def isDate (cs : List Char) : Bool :=
  match cs.splitOn '-' with
  | [year, month, day] =>
    year.length == 4 && year.all Char.isDigit && isPair 12 month &&
      isPair (daysIn ((natIn? 10 year).getD 0) ((natIn? 10 month).getD 0)) day &&
      natIn? 10 month != some 0 && natIn? 10 day != some 0
  | _ => false

def isTime (cs : List Char) : Bool :=
  match cs.splitOn ':' with
  | [hour, minute] => isPair 23 hour && isPair 59 minute
  | [hour, minute, second] =>
    let whole := second.takeWhile (· != '.')
    isPair 23 hour && isPair 59 minute && isPair 60 whole &&
      match second.drop whole.length with
      | [] => true
      | _ :: decimals => !decimals.isEmpty && decimals.all Char.isDigit
  | _ => false

def isTimeThere (cs : List Char) : Bool :=
  let isMark (c : Char) : Bool := ['Z', 'z', '+', '-'].contains c
  isTime (cs.takeWhile (!isMark ·)) &&
    match cs.dropWhile (!isMark ·) with
    | [] => true
    | mark :: offset =>
      if mark == '+' || mark == '-' then
        match offset.splitOn ':' with
        | [hour, minute] => isPair 23 hour && isPair 59 minute
        | _ => false
      else offset.isEmpty

def isMoment (cs : List Char) : Bool :=
  isDate cs || isTime cs ||
    (isDate (cs.take 10) &&
      match cs.drop 10 with
      | c :: time => (c == 'T' || c == 't' || c == ' ') && isTimeThere time
      | [] => false)

def isPlain (cs : List Char) : Bool :=
  cs == ['t', 'r', 'u', 'e'] || cs == ['f', 'a', 'l', 's', 'e'] || isInteger cs || isFraction cs ||
    isMoment cs

end Scaffold.Toml
