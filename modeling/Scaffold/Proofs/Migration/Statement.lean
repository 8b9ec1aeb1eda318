import Scaffold.Migration.Statement
import Scaffold.Proofs.Migration.Reference
import Scaffold.Proofs.Text.Lower
import Scaffold.Proofs.Text.Parts

/-!
The columns that the statement of a table holds, one by one. A declared column refers to the first target
whose key it is, unless an earlier column has its name; each target whose key is not declared adds a column.
-/
namespace Scaffold
open Text

def Table.reference? (table : Table) (i : Nat) (column : Column) : Option String :=
  if (table.columns.take i).any (·.name == column.name) then none
  else (table.relations.find? fun relation =>
    relation.kind = .manyToOne ∧ foreignKey relation.target = column.name).map (·.target)

theorem firstTarget (table : Table) (name : String) :
    table.foreignTargets.find? (foreignKey · == name) =
      (table.relations.find? fun relation =>
        relation.kind = .manyToOne ∧ foreignKey relation.target = name).map (·.target) := by
  rw [Table.foreignTargets, List.find?_map, List.find?_filter]
  congr 2
  funext relation
  simp [← beq_eq_decide]

namespace Migration

def SqlColumn.heading (column : SqlColumn) : String × String :=
  (column.name, column.type)

def declaredColumn (table : Table) (i : Nat) (column : Column) : SqlColumn :=
  { sqlColumn column with target? := table.reference? i column }

def keyColumn (target : String) : SqlColumn :=
  ⟨foreignKey target, "TEXT", [], some target⟩

theorem headingOpensText (column : SqlColumn) :
    ∃ rest, column.text = "\"" ++ column.name ++ "\" " ++ column.type ++ rest :=
  ⟨_, String.append_assoc⟩

theorem declaresKeyIff {table : Table} {target : String} :
    table.declaresKey target = true ↔ ∃ column ∈ table.columns, column.name = foreignKey target := by
  simp [Table.declaresKey, Table.hasColumn]

theorem targetText {column : SqlColumn} {target : String} (points : column.target? = some target) :
    contains column.text ("REFERENCES \"" ++ target ++ "\"(id)") = true := by
  have text : column.text.toList =
      ("\"" ++ column.name ++ "\" " ++ column.type ++
        String.join (column.clauses.map (" " ++ ·)) ++ " ").toList ++
        ("REFERENCES \"" ++ target ++ "\"(id)").toList := by
    rw [SqlColumn.text, points]
    simp only [String.toList_append, List.append_assoc]
    rfl
  rw [containsIff, text]
  exact (List.suffix_append _ _).isInfix

theorem referringOfTarget {column : SqlColumn} {target : String} (points : column.target? = some target) :
    column.refers = true := by
  have whole := containsIff.mp (targetText points)
  rw [SqlColumn.refers, containsIff]
  refine List.IsInfix.trans ?_ whole
  simp only [String.toList_append, List.append_assoc]
  exact (List.prefix_append _ _).isInfix

theorem keySmall (target : String) : 'R' ∉ (foreignKey target).toList := by
  rw [foreignKey, String.toList_append, List.mem_append]
  rintro (lowered | ending)
  · exact lowerNoCapital lowered (by decide)
  · exact absurd ending (by decide)

theorem clauseUnreferring {constraint : Constraint} {clause : String}
    (written : constraint.sqlClause? = some clause) :
    ¬ "REFERENCES".toList <:+: clause.toList := by
  cases constraint with
  | primaryKey | unique | defaultNow =>
    cases written
    decide
  | generatedId | optional | other => contradiction

/- The word of a reference holds no blank, so it would lie within the name, within the type or within
one of the clauses. -/
theorem declaredUnreferring {column : Column} (small : 'R' ∉ column.name.toList) :
    (sqlColumn column).refers = false := by
  rw [Bool.eq_false_iff, Ne, SqlColumn.refers, containsIff]
  intro inside
  have text : (sqlColumn column).text.toList =
      (('"' :: column.name.toList ++ ['"']) ++ ' ' :: column.type.sqlType.toList) ++
        (String.join ((column.constraints.filterMap Constraint.sqlClause?).map (" " ++ ·))).toList := by
    simp [SqlColumn.text, sqlColumn]
  rw [text] at inside
  rcases infixOfWords (by decide) inside with opening | ⟨clause, member, within⟩
  · rcases infixBesides (by decide) opening with name | type
    · have letter : 'R' ∈ '"' :: column.name.toList ++ ['"'] :=
        name.subset (by decide : 'R' ∈ "REFERENCES".toList)
      exact small (by simpa using letter)
    · revert type
      cases column.type <;> simp only [ColumnType.sqlType] <;> decide
  · obtain ⟨constraint, -, written⟩ := List.mem_filterMap.mp member
    exact clauseUnreferring written within

theorem pointAtReferring {column : SqlColumn} (refers : column.refers = true) (target : String) :
    column.pointAt target = column :=
  if_pos refers

theorem pointAtFresh {column : SqlColumn} (fresh : column.refers = false) (target : String) :
    column.pointAt target = { column with target? := some target } := by
  rw [SqlColumn.pointAt, fresh]
  rfl

def SqlColumn.pointAll (column : SqlColumn) (targets : List String) : SqlColumn :=
  targets.foldl (fun column target => column.pointAt target) column

theorem pointAllReferring {column : SqlColumn} (refers : column.refers = true)
    (targets : List String) : column.pointAll targets = column := by
  induction targets with
  | nil => rfl
  | cons target targets ih =>
    rw [SqlColumn.pointAll, List.foldl_cons, pointAtReferring refers]
    exact ih

/- A key is written in small letters, so nothing in the text of its column is taken for a reference
before the first target is there. -/
theorem pointAllKeys {column : Column} {targets : List String}
    (keys : ∀ target ∈ targets, foreignKey target = column.name) :
    (sqlColumn column).pointAll targets = { sqlColumn column with target? := targets.head? } := by
  cases targets with
  | nil => rfl
  | cons target rest =>
    have small : 'R' ∉ column.name.toList := keys target List.mem_cons_self ▸ keySmall target
    rw [SqlColumn.pointAll, List.foldl_cons, pointAtFresh (declaredUnreferring small)]
    exact pointAllReferring (referringOfTarget rfl) rest

def slot? (table : Table) (target : String) : Option Nat :=
  table.columns.findIdx? (·.name == foreignKey target)

variable {table : Table} {own added : List SqlColumn} {target : String}

theorem slotSome : (slot? table target).isSome = table.declaresKey target :=
  List.findIdx?_isSome

theorem slotIff {i : Nat} {column : Column} (found : table.columns[i]? = some column) :
    slot? table target = some i ↔ foreignKey target = column.name ∧
      (table.columns.take i).any (·.name == column.name) = false := by
  obtain ⟨inside, rfl⟩ := List.getElem?_eq_some_iff.mp found
  rw [slot?, List.findIdx?_eq_some_iff_getElem, List.any_eq_false]
  constructor
  · rintro ⟨_, named, first⟩
    have named := beq_iff_eq.mp named
    refine ⟨named.symm, fun earlier member same => ?_⟩
    obtain ⟨j, before, rfl⟩ := List.mem_take_iff_getElem.mp member
    exact first j (by omega) (by simpa [named] using same)
  · rintro ⟨named, first⟩
    refine ⟨inside, by simp [named], fun j before same => ?_⟩
    exact first _ (List.mem_take_iff_getElem.mpr ⟨j, by omega, rfl⟩) (by simpa [named] using same)

theorem slotReference {i : Nat} {column : Column} (found : table.columns[i]? = some column) :
    (table.foreignTargets.filter (slot? table · = some i)).head? = table.reference? i column := by
  rw [List.head?_filter, Table.reference?, ← firstTarget]
  simp only [slotIff found]
  cases (table.columns.take i).any (·.name == column.name) <;> simp [← beq_eq_decide]

theorem mapIdxSame {α : Type} (as : List α) : as.mapIdx (fun _ a => a) = as :=
  List.ext_getElem? fun i => by simp

theorem modifyLeft {α : Type} {as bs : List α} {position : Nat} (inside : position < as.length)
    (f : α → α) : (as ++ bs).modify position f =
      as.mapIdx (fun i a => if position = i then f a else a) ++ bs := by
  refine List.ext_getElem? fun n => ?_
  rw [List.getElem?_modify]
  by_cases left : n < as.length
  · rw [List.getElem?_append_left left, List.getElem?_append_left (by simpa using left),
      List.getElem?_mapIdx]
    rfl
  · have apart : position ≠ n := by omega
    rw [List.getElem?_append_right (by omega), List.getElem?_append_right (by simpa using left)]
    simp [apart]

theorem addReferenceWrites (declared : own.length = table.columns.length) (target : String) :
    addReference table (own ++ added) target =
      own.mapIdx (fun i column => if slot? table target = some i then column.pointAt target else column) ++
        (added ++ if table.declaresKey target then [] else [keyColumn target]) := by
  rw [← slotSome]
  cases place : slot? table target with
  | none =>
    have absent : table.columns.findIdx? (·.name == foreignKey target) = none := place
    rw [addReference, absent]
    simp [mapIdxSame, keyColumn]
  | some position =>
    have found : table.columns.findIdx? (·.name == foreignKey target) = some position := place
    obtain ⟨inside, -⟩ := List.findIdx?_eq_some_iff_getElem.mp found
    rw [addReference, found]
    simp [modifyLeft (declared ▸ inside)]

theorem referencesWrite (declared : own.length = table.columns.length) (targets : List String) :
    targets.foldl (addReference table) (own ++ added) =
      own.mapIdx (fun i column => column.pointAll (targets.filter (slot? table · = some i))) ++
        (added ++ (targets.filter (!table.declaresKey ·)).map keyColumn) := by
  induction targets generalizing own added with
  | nil => simp [SqlColumn.pointAll, mapIdxSame]
  | cons target targets ih =>
    rw [List.foldl_cons, addReferenceWrites declared, ih (by simpa using declared), List.mapIdx_mapIdx,
      List.append_assoc]
    congr 1
    · refine List.mapIdx_eq_mapIdx_iff.mpr fun i _ => ?_
      by_cases here : slot? table target = some i <;> simp [here, SqlColumn.pointAll]
    · cases declares : table.declaresKey target <;> simp [declares]

theorem createTableColumns (table : Table) :
    (createTable table).columns = table.columns.mapIdx (declaredColumn table) ++
        (table.foreignTargets.filter (!table.declaresKey ·)).map keyColumn := by
  have declared : (table.columns.map sqlColumn).length = table.columns.length := List.length_map sqlColumn
  have written := @referencesWrite table _ [] declared table.foreignTargets
  rw [List.append_nil, List.nil_append] at written
  refine written.trans (congrArg (· ++ _) (List.ext_getElem? fun i => ?_))
  rw [List.getElem?_mapIdx, List.getElem?_mapIdx, List.getElem?_map, Option.map_map]
  refine Option.map_congr fun column found => ?_
  have keys : ∀ target ∈ table.foreignTargets.filter (slot? table · = some i),
      foreignKey target = column.name := by
    intro target member
    exact ((slotIff found).mp (by simpa using (List.mem_filter.mp member).2)).1
  rw [declaredColumn, ← slotReference found]
  exact pointAllKeys keys

theorem referenceDeclared {column : SqlColumn} {named : String}
    (member : column ∈ (createTable table).columns) (refers : column.target? = some named) :
    named ∈ table.foreignTargets := by
  rw [createTableColumns, List.mem_append] at member
  rcases member with own | added
  · obtain ⟨i, inside, rfl⟩ := List.mem_mapIdx.mp own
    have first : table.reference? i table.columns[i] = some named := refers
    rw [Table.reference?, ← firstTarget] at first
    split at first
    · contradiction
    · exact List.mem_of_find?_eq_some first
  · obtain ⟨target, listed, rfl⟩ := List.mem_map.mp added
    cases refers
    exact (List.mem_filter.mp listed).1

theorem createTableHeadings (table : Table) :
    (createTable table).columns.map SqlColumn.heading =
      (table.columns.map fun column => (column.name, column.type.sqlType)) ++
        (table.foreignTargets.filter (!table.declaresKey ·)).map fun target =>
          (foreignKey target, "TEXT") := by
  have own : (table.columns.mapIdx (declaredColumn table)).map SqlColumn.heading =
      table.columns.map fun column => (column.name, column.type.sqlType) :=
    List.ext_getElem? fun i => by
      simp [SqlColumn.heading, declaredColumn, sqlColumn, Function.comp_def]
  rw [createTableColumns, List.map_append, own, List.map_map]
  rfl

end Migration
end Scaffold
