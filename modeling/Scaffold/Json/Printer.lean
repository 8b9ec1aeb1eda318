import Scaffold.Decimal.Shortest
import Scaffold.Json.Value

/-!
JSON values as text, on one line or laid out with two blanks per level.
-/
namespace Scaffold.Json

def hexDigit (n : Nat) : Char :=
  (Nat.toDigits 16 (n % 16)).headD '0'

def escaped (c : Char) : List Char :=
  if c == '"' then ['\\', '"']
  else if c == '\\' then ['\\', '\\']
  else if c == '\n' then ['\\', 'n']
  else if c == '\r' then ['\\', 'r']
  else if c == '\t' then ['\\', 't']
  else if c.toNat == 8 then ['\\', 'b']
  else if c.toNat == 12 then ['\\', 'f']
  else if c.toNat < 32 then ['\\', 'u', '0', '0', hexDigit (c.toNat / 16), hexDigit c.toNat]
  else [c]

def quoted (s : String) : String :=
  String.ofList ('"' :: (s.toList.flatMap escaped ++ ['"']))

def doubleText (d : Double) : String :=
  let sign := if d.negative then "-" else ""
  if d.isZero then sign ++ "0.0"
  else
    let (value, power) := d.shortest
    let digits := Nat.toDigits 10 value
    let lead := power + digits.length - 1
    let zeros (count : Int) : List Char := List.replicate count.toNat '0'
    let body : List Char :=
      if lead < -5 || lead ≥ 16 then
        digits.take 1 ++ (if digits.length > 1 then '.' :: digits.drop 1 else []) ++
          ['e', if lead < 0 then '-' else '+'] ++ Nat.toDigits 10 lead.natAbs
      else if power ≥ 0 then digits ++ zeros power ++ ['.', '0']
      else if lead ≥ 0 then
        digits.take (lead.toNat + 1) ++ '.' :: digits.drop (lead.toNat + 1)
      else '0' :: '.' :: (zeros (-lead - 1) ++ digits)
    sign ++ String.ofList body

def Number.text : Number → String
  | whole value => toString value
  | double value => doubleText value

mutual

def compact : Json → String
  | null => "null"
  | bool true => "true"
  | bool false => "false"
  | number value => value.text
  | string value => quoted value
  | array items => "[" ++ String.intercalate "," (compactItems items) ++ "]"
  | object members => "\x7b" ++ String.intercalate "," (compactMembers members) ++ "\x7d"

def compactItems : List Json → List String
  | [] => []
  | item :: rest => compact item :: compactItems rest

def compactMembers : List (String × Json) → List String
  | [] => []
  | (name, value) :: rest => (quoted name ++ ":" ++ compact value) :: compactMembers rest

end

def indentation (level : Nat) : String :=
  String.ofList (List.replicate (2 * level) ' ')

def block (level : Nat) (opening closing : String) (entries : List String) : String :=
  if entries.isEmpty then opening ++ closing
  else
    opening ++ "\n" ++ String.intercalate ",\n" (entries.map (indentation (level + 1) ++ ·)) ++
      "\n" ++ indentation level ++ closing

mutual

def laidOut (level : Nat) : Json → String
  | array items => block level "[" "]" (laidOutItems (level + 1) items)
  | object members => block level "\x7b" "\x7d" (laidOutMembers (level + 1) members)
  | null => "null"
  | bool true => "true"
  | bool false => "false"
  | number value => value.text
  | string value => quoted value

def laidOutItems (level : Nat) : List Json → List String
  | [] => []
  | item :: rest => laidOut level item :: laidOutItems level rest

def laidOutMembers (level : Nat) : List (String × Json) → List String
  | [] => []
  | (name, value) :: rest =>
    (quoted name ++ ": " ++ laidOut level value) :: laidOutMembers level rest

end

def pretty (value : Json) : String :=
  laidOut 0 value

end Scaffold.Json
