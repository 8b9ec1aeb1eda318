import Scaffold.Backend.Basic
import Scaffold.Text.Basic

/-!
The Prisma schema: one model per table, in the declared order.
-/
namespace Scaffold.Schema
open Text

inductive Line where
  | column (name type : String) (optional : Bool) (attributes : List String)
  | record (target : String)
  | key (target : String)
  | records (target : String)
  deriving DecidableEq, Repr

namespace Line

def text : Line → String
  | column name type optional attributes =>
    name ++ " " ++ type ++ (if optional then "?" else "") ++
      String.join (attributes.map (" " ++ ·))
  | record target =>
    lower target ++ " " ++ target ++ " @relation(fields: [" ++ foreignKey target ++
      "], references: [id])"
  | key target => foreignKey target ++ " String"
  | records target => lower target ++ "s " ++ target ++ "[]"

def stored? : Line → Option (String × String)
  | column name type _ _ => some (name, type)
  | key target => some (foreignKey target, "String")
  | record _ | records _ => none

end Line

def columnLine (column : Column) : Line :=
  .column column.name column.type.schemaType column.isOptional
    (column.constraints.filterMap Constraint.schemaAttribute?)

def relationLines (table : Table) (relation : Relation) : List Line :=
  match relation.kind with
  | .manyToOne =>
    .record relation.target ::
      (if table.declaresKey relation.target then [] else [.key relation.target])
  | .oneToMany => [.records relation.target]
  | .manyToMany => []

structure Model where
  name : String
  lines : List Line
  deriving DecidableEq, Repr

def model (table : Table) : Model :=
  ⟨table.name, table.columns.map columnLine ++ table.relations.flatMap (relationLines table)⟩

def Model.text (m : Model) : String :=
  "\nmodel " ++ m.name ++ " \x7b" ++ String.join (m.lines.map ("\n  " ++ ·.text)) ++ "\n\x7d\n"

def header : String :=
  unlines
    ["generator client \x7b",
      "  provider = \"prisma-client-js\"",
      "\x7d",
      "",
      "datasource db \x7b",
      "  provider = \"sqlite\"",
      "  url      = env(\"DATABASE_URL\")",
      "\x7d"]

def text (tables : List Table) : String :=
  header ++ String.join (tables.map fun table => (model table).text) ++ "\n"

end Scaffold.Schema
