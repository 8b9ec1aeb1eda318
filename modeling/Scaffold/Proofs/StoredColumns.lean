import Mathlib.Data.List.Forall2
import Scaffold.Proofs.Migration.Statement
import Scaffold.Schema

/-!
The columns that the rows of a table hold. The schema and the migration are written apart from each
other; both hold the same columns in the same order.
-/
namespace Scaffold
open Migration (SqlColumn createTable)

def Table.stored (table : Table) : List Column :=
  table.columns ++
    (table.foreignTargets.filter fun target =>
        ∀ column ∈ table.columns, column.name ≠ foreignKey target).map
      fun target => ⟨foreignKey target, .text, []⟩

structure Migration.SqlColumn.Holds (column : SqlColumn) (stored : Column) : Prop where
  name : column.name = stored.name
  type : column.type = stored.type.sqlType
  written : ∃ rest, column.text = "\"" ++ stored.name ++ "\" " ++ stored.type.sqlType ++ rest

namespace Schema

structure Line.Holds (line : Line) (stored : Column) : Prop where
  scalar : line.stored? = some (stored.name, stored.type.schemaType)
  written : ∃ rest, line.text = stored.name ++ " " ++ stored.type.schemaType ++ rest

def Line.isRelation : Line → Bool
  | record _ | records _ => true
  | column _ _ _ _ | key _ => false

def Model.scalars (m : Model) : List Line :=
  m.lines.filter (!·.isRelation)

theorem storedOpensText {line : Line} {name type : String} (stored : line.stored? = some (name, type)) :
    ∃ rest, line.text = name ++ " " ++ type ++ rest := by
  cases line with
  | column =>
    cases stored
    exact ⟨_, by simp only [Line.text, String.append_assoc]; rfl⟩
  | key =>
    cases stored
    exact ⟨"", by simp [Line.text, String.append_assoc]⟩
  | record | records => contradiction

theorem relationScalars (table : Table) (relations : List Relation) :
    (relations.flatMap (relationLines table)).filter (!·.isRelation) =
      (((relations.filter (·.kind == .manyToOne)).map (·.target)).filter
        (!table.declaresKey ·)).map .key := by
  induction relations with
  | nil => rfl
  | cons relation rest ih =>
    rw [List.flatMap_cons, List.filter_append, ih]
    obtain ⟨target, kind⟩ := relation
    cases kind with
    | manyToOne =>
      cases declares : table.declaresKey target <;>
        simp [relationLines, Line.isRelation, declares]
    | oneToMany => simp [relationLines, Line.isRelation]
    | manyToMany => simp [relationLines]

theorem modelScalars (table : Table) :
    (model table).scalars =
      table.columns.map columnLine ++ (table.foreignTargets.filter (!table.declaresKey ·)).map .key := by
  have declared : (table.columns.map columnLine).filter (!·.isRelation) =
      table.columns.map columnLine := by
    rw [List.filter_eq_self]
    intro line member
    obtain ⟨column, _, rfl⟩ := List.mem_map.mp member
    rfl
  rw [Model.scalars, model, List.filter_append, declared, relationScalars]
  rfl

end Schema

theorem undeclaredKeys (table : Table) :
    (table.foreignTargets.filter (!table.declaresKey ·)) =
      table.foreignTargets.filter fun target =>
        ∀ column ∈ table.columns, column.name ≠ foreignKey target := by
  refine List.filter_congr fun target _ => ?_
  rw [Bool.eq_iff_iff, Bool.not_eq_true', Bool.eq_false_iff, Ne, Migration.declaresKeyIff]
  simp

theorem statementHeadings (table : Table) :
    (createTable table).columns.map SqlColumn.heading =
      table.stored.map fun stored => (stored.name, stored.type.sqlType) := by
  rw [Migration.createTableHeadings, undeclaredKeys, Table.stored, List.map_append, List.map_map]
  rfl

theorem scalarHeadings (table : Table) :
    (Schema.model table).scalars.map Schema.Line.stored? =
      table.stored.map fun stored => some (stored.name, stored.type.schemaType) := by
  rw [Schema.modelScalars, undeclaredKeys, Table.stored]
  simp only [List.map_append, List.map_map]
  rfl

theorem schemaAndMigrationAgree (table : Table) :
    ((createTable table).columns.map fun column => some column.name) =
        ((Schema.model table).scalars.map fun line => line.stored?.map Prod.fst) ∧
      List.Forall₂ SqlColumn.Holds (createTable table).columns table.stored ∧
      List.Forall₂ Schema.Line.Holds (Schema.model table).scalars table.stored := by
  have columns := statementHeadings table
  have lines := scalarHeadings table
  refine ⟨?_, ?_, ?_⟩
  · have left := congrArg (List.map fun heading => some heading.1) columns
    have right := congrArg (List.map (Option.map Prod.fst)) lines
    simp only [List.map_map] at left right
    exact left.trans right.symm
  · rw [← List.forall₂_eq_eq_eq, List.forall₂_map_left_iff, List.forall₂_map_right_iff] at columns
    refine columns.imp fun column stored same => ?_
    have name : column.name = stored.name := congrArg Prod.fst same
    have type : column.type = stored.type.sqlType := congrArg Prod.snd same
    obtain ⟨rest, text⟩ := Migration.headingOpensText column
    exact ⟨name, type, rest, by rw [text, name, type]⟩
  · rw [← List.forall₂_eq_eq_eq, List.forall₂_map_left_iff, List.forall₂_map_right_iff] at lines
    exact lines.imp fun line stored same => ⟨same, Schema.storedOpensText same⟩

end Scaffold
