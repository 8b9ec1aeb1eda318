import Scaffold.Text.Basic
import Scaffold.Text.LetterCase

/-!
The types a column may have and their names in each place that needs one: the Prisma schema, SQLite,
TypeScript, and the validators of request bodies. A name outside the vocabulary is kept as it was
written and stands for text everywhere.
-/
namespace Scaffold
open Text

inductive ColumnType where
  | text
  | int
  | float
  | decimal
  | boolean
  | dateTime
  | unknown (raw : String)
  deriving DecidableEq, Repr

namespace ColumnType

def ofName (raw : String) : ColumnType :=
  match asciiLower (trim raw) with
  | "string" | "text" => text
  | "int" | "integer" => int
  | "float" => float
  | "decimal" => decimal
  | "boolean" | "bool" => boolean
  | "datetime" | "date" | "timestamp" => dateTime
  | _ => unknown raw

def name : ColumnType → String
  | text => "String"
  | int => "Int"
  | float => "Float"
  | decimal => "Decimal"
  | boolean => "Boolean"
  | dateTime => "DateTime"
  | unknown raw => raw

def isUnknown : ColumnType → Bool
  | unknown _ => true
  | _ => false

def schemaType : ColumnType → String
  | unknown _ => "String"
  | known => known.name

def sqlType : ColumnType → String
  | text | unknown _ => "TEXT"
  | int => "INTEGER"
  | float | decimal => "REAL"
  | boolean => "BOOLEAN"
  | dateTime => "TIMESTAMP"

def tsType : ColumnType → String
  | text | unknown _ => "string"
  | int | float | decimal => "number"
  | boolean => "boolean"
  | dateTime => "Date"

def validator : ColumnType → String
  | text => "z.string()"
  | int => "z.number().int()"
  | float | decimal => "z.number()"
  | boolean => "z.boolean()"
  | dateTime => "z.coerce.date()"
  | unknown _ => "z.unknown()"

end ColumnType

/-- The validator for one entry of a request body, given as a type name with an optional `?` after
it. Bodies have one more name than columns: `number`. -/
def bodyValidator (raw : String) : String :=
  let whole := (trim raw).toList
  let optional := whole.getLast? == some '?'
  let base := if optional then trim (String.ofList whole.dropLast) else String.ofList whole
  let required :=
    match asciiLower base with
    | "number" | "float" | "decimal" => "z.number()"
    | "int" | "integer" => "z.number().int()"
    | _ => (ColumnType.ofName base).validator
  if optional then required ++ ".optional()" else required

end Scaffold
