import Scaffold.Json.Value
import Scaffold.Yaml.Node

/-!
What the plain scalars of YAML stand for: null, truth values, whole numbers in four bases, and
doubles. Anything else is text.
-/
namespace Scaffold.Yaml
open Text

def isNull (text : String) : Bool :=
  ["null", "Null", "NULL", "~"].contains text

def bool? (text : String) : Option Bool :=
  if ["true", "True", "TRUE"].contains text then some true
  else if ["false", "False", "FALSE"].contains text then some false
  else none

def isSign (c : Char) : Bool :=
  c == '+' || c == '-'

def basePrefixed? : List Char → Option Nat
  | '0' :: 'x' :: digits => natIn? 16 digits
  | '0' :: 'o' :: digits => natIn? 8 digits
  | '0' :: 'b' :: digits => natIn? 2 digits
  | _ => none

def isZeroPadded (cs : List Char) : Bool :=
  let digits := match cs with
    | c :: rest => if isSign c then rest else cs
    | [] => []
  match digits with
  | '0' :: c :: rest => (c :: rest).all Char.isDigit
  | _ => false

def unsigned? (cs : List Char) : Option Nat :=
  let digits := match cs with
    | '+' :: rest => rest
    | _ => cs
  (basePrefixed? digits).or (if isZeroPadded cs then none else natIn? 10 digits)

def negative? (cs : List Char) : Option Nat :=
  match cs with
  | '-' :: rest => (basePrefixed? rest).or (if isZeroPadded cs then none else natIn? 10 rest)
  | _ => none

inductive WholeNumber where
  | kept (value : Int)
  | tooGreat
  deriving DecidableEq, Repr

def whole? (text : String) : Option WholeNumber :=
  let cs := text.toList
  match unsigned? cs, negative? cs with
  | some n, _ =>
    if n < Nat.pow 2 64 then some (.kept n) else if n < Nat.pow 2 128 then some .tooGreat else none
  | none, some n =>
    if n ≤ Nat.pow 2 63 then some (.kept (-n))
    else if n ≤ Nat.pow 2 127 then some .tooGreat
    else none
  | none, none => none

def decimal? (negative : Bool) (cs : List Char) : Option Double :=
  let whole := cs.takeWhile Char.isDigit
  let afterWhole := cs.dropWhile Char.isDigit
  let (decimals, rest) := match afterWhole with
    | '.' :: rest => (rest.takeWhile Char.isDigit, rest.dropWhile Char.isDigit)
    | rest => ([], rest)
  let power? : Option Int := match rest with
    | [] => some 0
    | e :: rest =>
      if e == 'e' || e == 'E' then
        match rest with
        | '-' :: digits => (natIn? 10 digits).map fun n => -(n : Int)
        | '+' :: digits => (natIn? 10 digits).map fun n => (n : Int)
        | digits => (natIn? 10 digits).map fun n => (n : Int)
      else none
  match whole ++ decimals, power? with
  | [], _ | _, none => none
  | digits, some power =>
    Double.ofDecimal negative ((natIn? 10 digits).getD 0) (power - decimals.length)

inductive Fraction where
  | finite (value : Double)
  | notFinite
  deriving DecidableEq, Repr

def fraction? (text : String) : Option Fraction :=
  if [".inf", ".Inf", ".INF", "+.inf", "+.Inf", "+.INF", "-.inf", "-.Inf", "-.INF", ".nan", ".NaN",
    ".NAN"].contains text then some .notFinite
  else
    let value := match text.toList with
      | '-' :: rest => decimal? true rest
      | '+' :: rest => decimal? false rest
      | cs => decimal? false cs
    value.map .finite

def Fraction.toJson : Fraction → Json
  | finite value => .number (.double value)
  | notFinite => .null

def plainValue? (text : String) : Option Json :=
  if text.isEmpty || isNull text then some .null
  else
    match bool? text, whole? text with
    | some value, _ => some (.bool value)
    | none, some (.kept value) => some (.number (.whole value))
    | none, some .tooGreat => none
    | none, none =>
      match if isZeroPadded text.toList then none else fraction? text with
      | some value => some value.toJson
      | none => some (.string text)

def standardTag (name : String) : String :=
  "tag:yaml.org,2002:" ++ name

def scalarValue? (tag : Option String) (style : Style) (text : String) : Option Json :=
  match tag with
  | none => if style == .plain then plainValue? text else some (.string text)
  | some tag =>
    if tag.toList.head? == some '!' then none
    else if tag == standardTag "bool" then (bool? text).map .bool
    else if tag == standardTag "int" then
      match whole? text with
      | some (.kept value) => some (.number (.whole value))
      | _ => none
    else if tag == standardTag "float" then (fraction? text).map Fraction.toJson
    else if tag == standardTag "null" then if isNull text then some .null else none
    else some (.string text)

end Scaffold.Yaml
