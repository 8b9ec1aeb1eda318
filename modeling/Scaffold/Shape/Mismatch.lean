import Scaffold.Json.Printer
import Scaffold.Text.Printable

/-!
Why a document does not have the shape that is asked of it.
-/
namespace Scaffold

inductive Found where
  | null
  | bool (value : Bool)
  | number (value : Json.Number)
  | string (value : String)
  | sequence
  | map
  deriving DecidableEq, Repr

inductive Mismatch where
  | missingField (name : String)
  | duplicateField (name : String)
  | unknownField (name : String) (known : List String)
  | unknownCase (name : String) (known : List String)
  | wrongKind (found : Found) (wanted : String)
  | shortRecord (length : Nat) (name : String) (fields : Nat)
  | longRecord (length : Nat)
  | choiceMembers
  deriving DecidableEq, Repr

namespace Found

def ofJson : Json → Found
  | .null => null
  | .bool value => bool value
  | .number value => number value
  | .string value => string value
  | .array _ => sequence
  | .object _ => map

def lowHex (n : Nat) : List Char :=
  Nat.toDigits 16 n

def shown (c : Char) : List Char :=
  if c == '"' then ['\\', '"']
  else if c == '\\' then ['\\', '\\']
  else if c == '\n' then ['\\', 'n']
  else if c == '\r' then ['\\', 'r']
  else if c == '\t' then ['\\', 't']
  else if c.toNat == 0 then ['\\', '0']
  else if Text.isPrintable c then [c]
  else ['\\', 'u', '{'] ++ lowHex c.toNat ++ ['}']

def shownText (s : String) : String :=
  String.ofList ('"' :: (s.toList.flatMap shown ++ ['"']))

def text : Found → String
  | null => "null"
  | bool value => "boolean `" ++ (if value then "true" else "false") ++ "`"
  | number (.whole value) => "integer `" ++ toString value ++ "`"
  | number (.double value) => "floating point `" ++ Json.doubleText value ++ "`"
  | string value => "string " ++ shownText value
  | sequence => "sequence"
  | map => "map"

end Found

namespace Mismatch

def ticked (name : String) : String :=
  "`" ++ name ++ "`"

def oneOf : List String → String
  | [] => "there are none"
  | [only] => "expected " ++ ticked only
  | [first, second] => "expected " ++ ticked first ++ " or " ++ ticked second
  | names => "expected one of " ++ String.intercalate ", " (names.map ticked)

def message : Mismatch → String
  | missingField name => "missing field " ++ ticked name
  | duplicateField name => "duplicate field " ++ ticked name
  | unknownField name known => "unknown field " ++ ticked name ++ ", " ++ oneOf known
  | unknownCase name known => "unknown variant " ++ ticked name ++ ", " ++ oneOf known
  | wrongKind found wanted => "invalid type: " ++ found.text ++ ", expected " ++ wanted
  | shortRecord length name fields =>
    "invalid length " ++ toString length ++ ", expected struct " ++ name ++ " with " ++
      toString fields ++ (if fields == 1 then " element" else " elements")
  | longRecord length =>
    "invalid length " ++ toString length ++ ", expected fewer elements in array"
  | choiceMembers => "invalid value: map, expected map with a single key"

end Mismatch
end Scaffold
