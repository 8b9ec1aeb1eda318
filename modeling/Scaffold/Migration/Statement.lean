import Scaffold.Backend.Basic
import Scaffold.Text.Basic

/-!
The statements that create the tables in SQLite.
-/
namespace Scaffold.Migration
open Text

structure SqlColumn where
  name : String
  type : String
  clauses : List String := []
  target? : Option String := none
  deriving DecidableEq, Repr

def SqlColumn.text (column : SqlColumn) : String :=
  "\"" ++ column.name ++ "\" " ++ column.type ++ String.join (column.clauses.map (" " ++ ·)) ++
    match column.target? with
    | some target => " REFERENCES \"" ++ target ++ "\"(id)"
    | none => ""

def sqlColumn (column : Column) : SqlColumn :=
  ⟨column.name, column.type.sqlType, column.constraints.filterMap Constraint.sqlClause?, none⟩

def SqlColumn.refers (column : SqlColumn) : Bool :=
  contains column.text "REFERENCES"

def SqlColumn.pointAt (target : String) (column : SqlColumn) : SqlColumn :=
  if column.refers then column else { column with target? := some target }

def addReference (table : Table) (columns : List SqlColumn) (target : String) : List SqlColumn :=
  match table.columns.findIdx? (·.name == foreignKey target) with
  | some position => columns.modify position (·.pointAt target)
  | none => columns ++ [⟨foreignKey target, "TEXT", [], some target⟩]

structure Statement where
  name : String
  columns : List SqlColumn
  deriving DecidableEq, Repr

def createTable (table : Table) : Statement :=
  ⟨table.name, table.foreignTargets.foldl (addReference table) (table.columns.map sqlColumn)⟩

def Statement.text (statement : Statement) : String :=
  "\nCREATE TABLE \"" ++ statement.name ++ "\" (" ++
    String.intercalate "," (statement.columns.map ("\n  " ++ ·.text)) ++ "\n);\n"

def script (statements : List Statement) : String :=
  "-- CreateTable" ++ String.join (statements.map Statement.text) ++ "\n"

def text (tables : List Table) : String :=
  script (tables.map createTable)

end Scaffold.Migration
