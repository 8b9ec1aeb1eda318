import Scaffold.Backend.ColumnType
import Scaffold.Backend.Constraint
import Scaffold.Json.Value
import Scaffold.Text.LetterCase

/-!
A backend as it is declared: tables, endpoints, sign-in and products. Every artifact of a project
is a function of a value of type `Backend`.
-/
namespace Scaffold

structure Column where
  name : String
  type : ColumnType
  constraints : List Constraint := []
  deriving DecidableEq, Repr

def Column.isOptional (column : Column) : Bool :=
  column.constraints.contains .optional

inductive RelationKind where
  | manyToOne
  | oneToMany
  | manyToMany
  deriving DecidableEq, Repr

structure Relation where
  target : String
  kind : RelationKind
  deriving DecidableEq, Repr

structure Table where
  name : String
  columns : List Column := []
  relations : List Relation := []
  deriving DecidableEq, Repr

def Table.hasColumn (table : Table) (name : String) : Bool :=
  table.columns.any (·.name == name)

def foreignKey (target : String) : String :=
  Text.lower target ++ "Id"

def Table.foreignTargets (table : Table) : List String :=
  (table.relations.filter (·.kind == .manyToOne)).map (·.target)

def Table.declaresKey (table : Table) (target : String) : Bool :=
  table.hasColumn (foreignKey target)

inductive Method where
  | get
  | post
  | put
  | delete
  deriving DecidableEq, Repr

namespace Method

def name : Method → String
  | get => "GET"
  | post => "POST"
  | put => "PUT"
  | delete => "DELETE"

def key : Method → String
  | get => "get"
  | post => "post"
  | put => "put"
  | delete => "delete"

def addressesRecord : Method → Bool
  | put | delete => true
  | get | post => false

def takesBody : Method → Bool
  | post | put => true
  | get | delete => false

end Method

structure Endpoint where
  path : String
  method : Method
  description : String := ""
  authenticated : Bool := false
  body : Option (List (String × Json)) := none
  response : Json := .null
  deriving Repr

structure Provider where
  name : String
  kind : String := ""
  config : Json := .null
  deriving Repr

structure Auth where
  providers : List Provider := []
  userColumns : List Column := []
  deriving Repr

inductive Billing where
  | oneTime
  | subscription
  deriving DecidableEq, Repr

structure Product where
  name : String
  billing : Billing
  price : String := ""
  features : List String := []
  deriving DecidableEq, Repr

structure Backend where
  tables : List Table := []
  endpoints : List Endpoint := []
  auth : Auth := {}
  products : List Product := []
  deriving Repr

end Scaffold
