import Scaffold.Text.Basic
import Scaffold.Text.LetterCase

/-!
Column constraints. Each has a plain spelling (`primary key`) and a schema spelling (`@id`);
anything else is kept and handed on to the schema.
-/
namespace Scaffold
open Text

inductive Constraint where
  | primaryKey
  | unique
  | defaultNow
  | generatedId
  | optional
  | other (raw : String)
  deriving DecidableEq, Repr

namespace Constraint

def withoutAt : List Char → List Char
  | '@' :: rest => rest
  | cs => cs

def ofName (raw : String) : Constraint :=
  let trimmed := trim raw
  match asciiLower (String.ofList (withoutAt trimmed.toList)) with
  | "id" | "primary key" | "primary_key" | "pk" => primaryKey
  | "unique" => unique
  | "default(now())" | "default now" | "default_now" => defaultNow
  | "default(cuid())" | "default(uuid())" | "default generated id" => generatedId
  | "?" | "optional" => optional
  | _ => other trimmed

def name : Constraint → String
  | primaryKey => "primary key"
  | unique => "unique"
  | defaultNow => "default now"
  | generatedId => "default generated id"
  | optional => "optional"
  | other raw => raw

def schemaAttribute? : Constraint → Option String
  | primaryKey => some "@id"
  | unique => some "@unique"
  | defaultNow => some "@default(now())"
  | generatedId => some "@default(cuid())"
  | optional => none
  | other raw => some raw

/-- SQLite makes no identifiers of its own, and a constraint kept as written has no meaning in it.
-/
def sqlClause? : Constraint → Option String
  | primaryKey => some "PRIMARY KEY"
  | unique => some "UNIQUE"
  | defaultNow => some "DEFAULT CURRENT_TIMESTAMP"
  | generatedId | optional | other _ => none

end Constraint
end Scaffold
