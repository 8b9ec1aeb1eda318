import Scaffold.Decimal.Double

/-!
JSON values and numerals. Members keep their order, and numbers are whole or double-precision: whole ones of
64 bits are exact, and of the digits of any other as many as fit into 64 bits are taken and the power of ten is
applied to their rounded value.
-/
namespace Scaffold

inductive Json.Number where
  | whole (value : Int)
  | double (value : Double)
  deriving DecidableEq, Repr

inductive Json where
  | null
  | bool (value : Bool)
  | number (value : Json.Number)
  | string (value : String)
  | array (items : List Json)
  | object (members : List (String × Json))
  deriving Repr, Inhabited

namespace Json

def putMember (name : String) (value : Json) : List (String × Json) → List (String × Json)
  | [] => [(name, value)]
  | (other, old) :: rest =>
    if other == name then (name, value) :: rest else (other, old) :: putMember name value rest

def member? (name : String) : Json → Option Json
  | object members => members.lookup name
  | _ => none

structure Numeral where
  negative : Bool
  whole : List Char
  decimals : Option (List Char)
  exponent : Option (Bool × List Char)
  deriving DecidableEq, Repr

namespace Numeral

def wordLimit : Nat := Nat.pow 2 64

def digit (c : Char) : Nat :=
  c.toNat - '0'.toNat

def value (digits : List Char) : Nat :=
  digits.foldl (fun n c => 10 * n + digit c) 0

def take (n : Nat) : List Char → Nat × List Char
  | [] => (n, [])
  | c :: rest =>
    if 10 * n + digit c < wordLimit then take (10 * n + digit c) rest else (n, c :: rest)

def tenTo (power : Nat) : Double :=
  (Double.ofDecimal false 1 power).getD (Double.zero false)

/-- The double applied to a power of ten, in steps of `10^308` where the power is further out. None
beyond the greatest double. -/
def applyPower (d : Double) (power : Int) : Option Double :=
  if power > 308 then if d.isZero then some d else none
  else if power ≥ 0 then d.times (tenTo power.toNat)
  else if power ≥ -308 then d.dividedBy (tenTo (-power).toNat)
  else if d.isZero then some d
  else (d.dividedBy (tenTo 308)).bind fun smaller => applyPower smaller (power + 308)
termination_by (-power).toNat

/-- The power that an exponent asks for. One too great for 32 bits only shows its sign. -/
def power (exponent : Option (Bool × List Char)) : Int :=
  match exponent with
  | none => 0
  | some (negative, digits) => if negative then -(value digits) else value digits

def double (n : Numeral) (significand : Nat) (shift : Int) : Option Double :=
  let sized : Option Double :=
    if significand == 0 then some (Double.zero false)
    else
      let total := shift + power n.exponent
      if total < -4000 then some (Double.zero false)
      else (Double.nearest false significand 1).bind (applyPower · total)
  sized.map fun d => { d with negative := n.negative }

def number (n : Numeral) : Option Number :=
  let (significand, rest) := take 0 n.whole
  match rest, n.decimals, n.exponent with
  | [], none, none =>
    if !n.negative then some (.whole significand)
    else if significand == 0 || significand > Nat.pow 2 63 then
      (Double.nearest true significand 1).map .double
    else some (.whole (-significand))
  | rest, decimals, _ =>
    let (significand, left) := take significand (decimals.getD [])
    let used := (decimals.getD []).length - left.length
    (n.double significand ((rest.length : Int) - used)).map .double

end Numeral

end Json
end Scaffold
