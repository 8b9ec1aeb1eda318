import Scaffold.Proofs.StoredColumns

/-!
What a many-to-one relation leaves in the schema and in the migration: the line of the record, the key
column, and the reference of that column. A key column that the table declares holds one reference, so
where two targets share a declared key the first of them keeps it.
-/
namespace Scaffold
open Text
open Migration (createTable)

def Table.referred (table : Table) (target : String) : String :=
  if table.declaresKey target then
    (table.foreignTargets.find? (foreignKey · == foreignKey target)).getD target
  else target

structure Table.Expands (table : Table) (target : String) : Prop where
  record : ∃ line ∈ (Schema.model table).lines, line.text =
    lower target ++ " " ++ target ++ " @relation(fields: [" ++ foreignKey target ++
      "], references: [id])"
  scalar : ∃ line ∈ (Schema.model table).scalars, ∃ type rest,
    line.stored? = some (foreignKey target, type) ∧
      line.text = foreignKey target ++ " " ++ type ++ rest
  column : ∃ column ∈ (createTable table).columns, column.name = foreignKey target ∧
    column.target? = some (table.referred target) ∧
      contains column.text ("REFERENCES \"" ++ table.referred target ++ "\"(id)") = true

namespace Migration

variable {table : Table} {target : String}

theorem undeclaredAdded (undeclared : table.declaresKey target = false)
    (named : target ∈ table.foreignTargets) : keyColumn target ∈ (createTable table).columns := by
  rw [createTableColumns]
  refine List.mem_append_right _ (List.mem_map_of_mem (List.mem_filter.mpr ⟨named, ?_⟩))
  simp [undeclared]

theorem declaredPointed (declares : table.declaresKey target = true) :
    ∃ column ∈ (createTable table).columns, column.name = foreignKey target ∧
      column.target? = table.foreignTargets.find? (foreignKey · == foreignKey target) := by
  obtain ⟨position, slot⟩ := Option.isSome_iff_exists.mp (slotSome.trans declares)
  obtain ⟨inside, -⟩ := List.findIdx?_eq_some_iff_getElem.mp slot
  obtain ⟨key, first⟩ := (slotIff (List.getElem?_eq_getElem inside)).mp slot
  refine ⟨declaredColumn table position table.columns[position], ?_, key.symm, ?_⟩
  · rw [createTableColumns]
    exact List.mem_append_left _ (List.mem_mapIdx.mpr ⟨position, inside, rfl⟩)
  · rw [key, firstTarget]
    exact if_neg (Bool.eq_false_iff.mp first)

end Migration

namespace Schema

variable {table : Table} {target : String}

theorem recordWritten {relation : Relation} (declared : relation ∈ table.relations)
    (kind : relation.kind = .manyToOne) : .record relation.target ∈ (model table).lines := by
  refine List.mem_append_right _ (List.mem_flatMap.mpr ⟨relation, declared, ?_⟩)
  rw [relationLines, kind]
  exact List.mem_cons_self

theorem keyScalar (named : target ∈ table.foreignTargets) :
    ∃ line ∈ (model table).scalars, ∃ type, line.stored? = some (foreignKey target, type) := by
  rw [modelScalars]
  cases declares : table.declaresKey target with
  | true =>
    obtain ⟨column, member, key⟩ := Migration.declaresKeyIff.mp declares
    refine ⟨_, List.mem_append_left _ (List.mem_map_of_mem member), column.type.schemaType, ?_⟩
    rw [← key]
    rfl
  | false =>
    have undeclared : target ∈ table.foreignTargets.filter (!table.declaresKey ·) := by
      simp [named, declares]
    exact ⟨_, List.mem_append_right _ (List.mem_map_of_mem undeclared), "String", rfl⟩

end Schema

variable {table : Table} {target : String}

theorem keyReferred (named : target ∈ table.foreignTargets) :
    ∃ column ∈ (createTable table).columns, column.name = foreignKey target ∧
      column.target? = some (table.referred target) := by
  unfold Table.referred
  cases declares : table.declaresKey target with
  | true =>
    obtain ⟨column, member, key, points⟩ := Migration.declaredPointed declares
    have sharing : (table.foreignTargets.find? (foreignKey · == foreignKey target)).isSome :=
      List.find?_isSome.mpr ⟨target, named, by simp⟩
    obtain ⟨first, found⟩ := Option.isSome_iff_exists.mp sharing
    refine ⟨column, member, key, ?_⟩
    rw [points, found]
    rfl
  | false => exact ⟨_, Migration.undeclaredAdded declares named, rfl, rfl⟩

/- Another table than the target is referred to only where the key is declared and an earlier relation
has a target of the same key. -/
theorem referredOther (other : table.referred target ≠ target) :
    table.declaresKey target = true ∧
      ∃ before after, table.foreignTargets = before ++ table.referred target :: after ∧
        foreignKey (table.referred target) = foreignKey target ∧ target ∉ before := by
  unfold Table.referred at other ⊢
  cases declares : table.declaresKey target with
  | false => simp [declares] at other
  | true =>
    rw [declares, if_pos rfl] at other
    refine ⟨rfl, ?_⟩
    cases first : table.foreignTargets.find? (foreignKey · == foreignKey target) with
    | none => simp [first] at other
    | some found =>
      obtain ⟨key, before, after, split, skipped⟩ := List.find?_eq_some_iff_append.mp first
      refine ⟨before, after, by simpa using split, by simpa using key, fun early => ?_⟩
      simpa using skipped target early

theorem relationExpanded {relation : Relation} (declared : relation ∈ table.relations)
    (kind : relation.kind = .manyToOne) :
    table.Expands relation.target ∧
      (table.referred relation.target ≠ relation.target →
        table.declaresKey relation.target = true ∧
          ∃ before after, table.foreignTargets = before ++ table.referred relation.target :: after ∧
            foreignKey (table.referred relation.target) = foreignKey relation.target ∧
              relation.target ∉ before) := by
  have named : relation.target ∈ table.foreignTargets :=
    Migration.memForeignTargets.mpr ⟨relation, declared, kind, rfl⟩
  refine ⟨⟨⟨_, Schema.recordWritten declared kind, rfl⟩, ?_, ?_⟩, referredOther⟩
  · obtain ⟨line, member, type, stored⟩ := Schema.keyScalar named
    obtain ⟨rest, text⟩ := Schema.storedOpensText stored
    exact ⟨line, member, type, rest, stored, text⟩
  · obtain ⟨column, member, key, points⟩ := keyReferred named
    exact ⟨column, member, key, points, Migration.targetText points⟩

/- A declared key that two targets share, told apart by their capitals only. -/
def visit : Table :=
  ⟨"Visit", [⟨"userId", .text, []⟩], [⟨"User", .manyToOne⟩, ⟨"USER", .manyToOne⟩]⟩

theorem sharedKeyUnreferred :
    ⟨"USER", .manyToOne⟩ ∈ visit.relations ∧
      ¬ ∃ column ∈ (createTable visit).columns, column.name = foreignKey "USER" ∧
        contains column.text "REFERENCES \"USER\"(id)" = true := by
  decide +kernel

theorem visitExpanded :
    visit.Expands "User" ∧ visit.referred "User" = "User" ∧ visit.Expands "USER" ∧
      visit.referred "USER" = "User" :=
  ⟨(relationExpanded (by decide : ⟨"User", .manyToOne⟩ ∈ visit.relations) rfl).1, by decide +kernel,
    (relationExpanded (by decide : ⟨"USER", .manyToOne⟩ ∈ visit.relations) rfl).1, by decide +kernel⟩

end Scaffold
