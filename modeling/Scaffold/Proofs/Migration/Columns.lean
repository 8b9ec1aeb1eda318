import Mathlib.Data.List.Nodup
import Scaffold.Proofs.Migration.Statement

/-!
The texts and the names of the columns in the statement of a table. Each column is written as it is
declared, then its reference. Two columns have one name only if the table declares that name twice, or
if two relations have one key and the table does not declare it.
-/
namespace Scaffold

/-- The relations whose keys are columns that the table does not declare. -/
def Table.added (table : Table) : List Relation :=
  table.relations.filter fun relation =>
    relation.kind = .manyToOne ∧ ∀ column ∈ table.columns, column.name ≠ foreignKey relation.target

def Table.addedKeys (table : Table) : List String :=
  table.added.map fun relation => foreignKey relation.target

theorem addedTargets (table : Table) :
    table.foreignTargets.filter (!table.declaresKey ·) = table.added.map (·.target) := by
  rw [Table.foreignTargets, Table.added, List.filter_map, List.filter_filter]
  congr 1
  refine List.filter_congr fun relation _ => ?_
  rw [Bool.eq_iff_iff]
  simp [Migration.declaresKeyIff, ← Bool.not_eq_true, and_comm]

namespace Migration

def typeText : ColumnType → String
  | .int => "INTEGER"
  | .float | .decimal => "REAL"
  | .boolean => "BOOLEAN"
  | .dateTime => "TIMESTAMP"
  | .text | .unknown _ => "TEXT"

def declarationText (column : Column) : String :=
  "\"" ++ column.name ++ "\" " ++ typeText column.type ++
    String.join ((column.constraints.filterMap Constraint.sqlClause?).map (" " ++ ·))

def referenceText : Option String → String
  | some target => " REFERENCES \"" ++ target ++ "\"(id)"
  | none => ""

variable (table : Table)

theorem typeWritten (type : ColumnType) : type.sqlType = typeText type := by
  cases type <;> rfl

theorem declaredColumnText (i : Nat) (column : Column) :
    (declaredColumn table i column).text =
      declarationText column ++ referenceText (table.reference? i column) := by
  cases reference : table.reference? i column <;>
    simp [declaredColumn, sqlColumn, SqlColumn.text, declarationText, referenceText, typeWritten, reference]

theorem keyColumnText (target : String) :
    (keyColumn target).text = "\"" ++ foreignKey target ++ "\" TEXT" ++ referenceText (some target) := by
  simp [keyColumn, SqlColumn.text, referenceText, String.append_assoc]

theorem createTableWritten :
    (createTable table).columns.map SqlColumn.text =
      table.columns.mapIdx (fun i column =>
        declarationText column ++ referenceText (table.reference? i column)) ++
      table.added.map fun relation =>
        "\"" ++ foreignKey relation.target ++ "\" TEXT" ++ referenceText (some relation.target) := by
  have own : (table.columns.mapIdx (declaredColumn table)).map SqlColumn.text =
      table.columns.mapIdx fun i column =>
        declarationText column ++ referenceText (table.reference? i column) :=
    List.ext_getElem? fun i => by simp [Function.comp_def, declaredColumnText]
  rw [createTableColumns, List.map_append, own, addedTargets, List.map_map, List.map_map]
  exact congrArg _ (List.map_congr_left fun relation _ => keyColumnText relation.target)

theorem columnNames : (createTable table).columns.map (·.name) =
    table.columns.map (·.name) ++ table.addedKeys := by
  have names := congrArg (List.map Prod.fst) (createTableHeadings table)
  rw [addedTargets] at names
  simpa [Table.addedKeys, SqlColumn.heading, Function.comp_def] using names

theorem addedKeysUndeclared : ∀ key ∈ table.addedKeys, key ∉ table.columns.map (·.name) := by
  intro key added declared
  obtain ⟨relation, listed, rfl⟩ := List.mem_map.mp added
  obtain ⟨column, member, same⟩ := List.mem_map.mp declared
  have undeclared := (of_decide_eq_true (List.mem_filter.mp listed).2).2
  exact undeclared column member same

theorem columnNamesOnce :
    (∀ key ∈ table.addedKeys, key ∉ table.columns.map (·.name)) ∧
      (((createTable table).columns.map (·.name)).Nodup ↔
        (table.columns.map (·.name)).Nodup ∧ table.addedKeys.Nodup) := by
  refine ⟨addedKeysUndeclared table, ?_⟩
  rw [columnNames, List.nodup_append]
  refine ⟨fun once => ⟨once.1, once.2.1⟩, fun once => ⟨once.1, once.2, fun name own key added => ?_⟩⟩
  rintro rfl
  exact addedKeysUndeclared table name added own

/- Both ends of a transfer are accounts. -/
def transfer : Table :=
  ⟨"Transfer", [⟨"id", .text, [.primaryKey]⟩], [⟨"Account", .manyToOne⟩, ⟨"Account", .manyToOne⟩]⟩

theorem repeatedRelationTwins : (transfer.columns.map (·.name)).Nodup ∧
    ¬ ((createTable transfer).columns.map (·.name)).Nodup := by
  decide +kernel

end Migration
end Scaffold
