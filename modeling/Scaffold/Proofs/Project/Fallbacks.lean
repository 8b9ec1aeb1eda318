import Scaffold.Proofs.Migration.Arrangement
import Scaffold.Proofs.Project.Emission
import Scaffold.Proofs.StoredColumns

/-!
Types that fall back to text. The schema, the migration and the middleware are those of a backend in which
each unknown type is the text type, and each such type in a table is told once; those of the user model
are not told.
-/
namespace Scaffold
open Migration (SqlColumn arrange bearer? createTable needs)
open Text

def ColumnType.known : ColumnType → ColumnType
  | unknown _ => text
  | type => type

def Column.asText (column : Column) : Column :=
  { column with type := column.type.known }

def Table.asText (table : Table) : Table :=
  { table with columns := table.columns.map Column.asText }

def Backend.asText (backend : Backend) : Backend :=
  { backend with
    tables := backend.tables.map Table.asText
    auth := { backend.auth with userColumns := backend.auth.userColumns.map Column.asText } }

def Backend.declarations (backend : Backend) : List Column :=
  backend.tables.flatMap (·.columns) ++ backend.auth.userColumns

def Column.fallback? (column : Column) : Option (String × String) :=
  match column.type with
  | .unknown raw => some (column.name, raw)
  | _ => none

def Warning.fallback? : Warning → Option (String × String × String)
  | .unknownType table column type => some (table, column, type)
  | _ => none

namespace Project

def dialectFiles (backend : Backend) (config : Config) : List File :=
  [⟨"prisma/schema.prisma", Schema.text backend.tables⟩,
    ⟨"prisma/migrations/initial/migration.sql",
      Migration.text ((arrange config.order backend.tables).tables backend.tables)⟩,
    ⟨"src/middleware/auth.ts", (Auth.middleware backend.auth backend.endpoints).text⟩]

/-- The parts of the emitted texts that give the type text to a declaration of no known type. -/
structure Worded (backend : Backend) (config : Config) : Prop where
  model : ∀ table ∈ backend.tables, ∀ column ∈ table.columns, ∀ raw, column.type = .unknown raw →
    contains (Schema.text backend.tables) ("\n  " ++ column.name ++ " String") = true
  statement : ∀ table ∈ backend.tables, ∀ column ∈ table.columns, ∀ raw, column.type = .unknown raw →
    contains (Migration.text ((arrange config.order backend.tables).tables backend.tables))
      ("\n  \"" ++ column.name ++ "\" TEXT") = true
  user : ∀ column ∈ backend.auth.userColumns, ∀ raw, column.type = .unknown raw →
    contains (Auth.middleware backend.auth backend.endpoints).text
      ("  " ++ column.name ++ (if column.isOptional then "?" else "") ++ ": string;\n") = true

structure FallbacksTold (backend : Backend) (config : Config) : Prop where
  worded : Worded backend config
  rendered : ∀ file ∈ dialectFiles backend config,
    lastAt? file.path (generate backend config).files = some file ∧
      lastAt? file.path (generate backend.asText config).files = some file
  told : (generate backend config).warnings.filterMap Warning.fallback? =
    backend.tables.flatMap fun table =>
      (table.columns.filterMap Column.fallback?).map fun gap => (table.name, gap)
  counted : ((generate backend config).warnings.filterMap Warning.fallback?).length +
      (backend.auth.userColumns.filterMap Column.fallback?).length =
    (backend.declarations.filterMap Column.fallback?).length
  complete : ((generate backend config).warnings.filterMap Warning.fallback?).map Prod.snd =
      backend.declarations.filterMap Column.fallback? ↔
    ∀ column ∈ backend.auth.userColumns, ∀ raw, column.type ≠ .unknown raw

variable {backend : Backend} {config : Config} {tables : List Table}

theorem columnLineAsText (column : Column) : Schema.columnLine column.asText = Schema.columnLine column := by
  obtain ⟨name, type, constraints⟩ := column
  cases type <;> rfl

theorem sqlColumnAsText (column : Column) : Migration.sqlColumn column.asText = Migration.sqlColumn column := by
  obtain ⟨name, type, constraints⟩ := column
  cases type <;> rfl

theorem userFieldAsText (column : Column) : Auth.userField column.asText = Auth.userField column := by
  obtain ⟨name, type, constraints⟩ := column
  cases type <;> rfl

theorem modelAsText (table : Table) : Schema.model table.asText = Schema.model table := by
  have declares : ∀ target, table.asText.declaresKey target = table.declaresKey target := by
    intro target
    simp [Table.declaresKey, Table.hasColumn, Table.asText, Column.asText, Function.comp_def]
  have relations : Schema.relationLines table.asText = Schema.relationLines table := by
    funext relation
    simp only [Schema.relationLines, declares]
  simp only [Schema.model, relations]
  simp [Table.asText, columnLineAsText, Function.comp_def]

theorem createTableAsText (table : Table) : Migration.createTable table.asText = Migration.createTable table := by
  have added : Migration.addReference table.asText = Migration.addReference table := by
    funext columns target
    simp [Migration.addReference, Table.asText, Column.asText, Function.comp_def]
  simp only [Migration.createTable, added]
  simp [Table.asText, Table.foreignTargets, sqlColumnAsText, Function.comp_def]

theorem bearerAsText (tables : List Table) (name : String) :
    bearer? (tables.map Table.asText) name = bearer? tables name := by
  simp [bearer?, List.zipIdx_map, ← List.map_reverse, List.find?_map, Function.comp_def, Table.asText]

theorem needsAsText (tables : List Table) (i : Nat) : needs (tables.map Table.asText) i = needs tables i := by
  have bearers : bearer? (tables.map Table.asText) = bearer? tables := funext (bearerAsText tables)
  simp only [needs, List.getElem?_map, bearers]
  cases tables[i]? <;> rfl

theorem arrangeAsText (order : Migration.Order) (tables : List Table) :
    arrange order (tables.map Table.asText) = arrange order tables := by
  have same : needs (tables.map Table.asText) = needs tables := funext (needsAsText tables)
  cases order <;> simp only [arrange, Migration.byDependency, List.length_map, same]

theorem schemaAsText (tables : List Table) : Schema.text (tables.map Table.asText) = Schema.text tables := by
  simp [Schema.text, modelAsText, Function.comp_def]

theorem migrationAsText (arrangement : Migration.Arrangement) (tables : List Table) :
    Migration.text (arrangement.tables (tables.map Table.asText)) =
      Migration.text (arrangement.tables tables) := by
  have placed : arrangement.tables (tables.map Table.asText) =
      (arrangement.tables tables).map Table.asText := by
    simp [Migration.Arrangement.tables, List.map_filterMap]
  rw [placed, Migration.text, Migration.text, List.map_map]
  simp [createTableAsText, Function.comp_def]

theorem middlewareAsText (backend : Backend) :
    Auth.middleware backend.asText.auth backend.endpoints =
      Auth.middleware backend.auth backend.endpoints := by
  simp [Auth.middleware, Backend.asText, userFieldAsText, Function.comp_def]

theorem columnFallbacks (table : Table) : (columnWarnings table).filterMap Warning.fallback? =
    (table.columns.filterMap Column.fallback?).map fun gap => (table.name, gap) := by
  rw [columnWarnings, List.filterMap_filterMap, List.map_filterMap]
  congr 1
  funext column
  obtain ⟨name, type, constraints⟩ := column
  cases type <;> rfl

theorem relationFallbacks (tables : List Table) (table : Table) :
    (table.relations.flatMap (relationWarnings tables table)).filterMap Warning.fallback? = [] := by
  rw [List.filterMap_flatMap, List.flatMap_eq_nil_iff]
  intro relation _
  unfold relationWarnings
  split <;> split <;> rfl

theorem tableFallbacks (tables : List Table) : (tableWarnings tables).filterMap Warning.fallback? =
    tables.flatMap fun table =>
      (table.columns.filterMap Column.fallback?).map fun gap => (table.name, gap) := by
  simp only [tableWarnings, List.filterMap_flatMap, List.filterMap_append, columnFallbacks]
  simp only [← List.filterMap_flatMap, relationFallbacks, List.append_nil]

/- No other part of the warnings tells of a type. -/
theorem warningFallbacks (backend : Backend) (config : Config) :
    (generate backend config).warnings.filterMap Warning.fallback? = backend.tables.flatMap fun table =>
      (table.columns.filterMap Column.fallback?).map fun gap => (table.name, gap) := by
  have cycles : ∀ cycle, (cycleWarnings cycle).filterMap Warning.fallback? = [] := by
    intro cycle
    unfold cycleWarnings
    split <;> rfl
  have endpoints : ((owned backend).filterMap endpointWarning?).filterMap Warning.fallback? = [] := by
    rw [List.filterMap_filterMap, List.filterMap_eq_nil_iff]
    rintro ⟨endpoint, table | table⟩ - <;> rfl
  have user : (userWarnings backend.tables).filterMap Warning.fallback? = [] := by
    unfold userWarnings
    split <;> rfl
  have repeated : ∀ paths : List String,
      (paths.map Warning.duplicatePath).filterMap Warning.fallback? = [] := by
    intro paths
    rw [List.filterMap_map, List.filterMap_eq_nil_iff]
    exact fun _ _ => rfl
  simp only [generate, gaps, List.filterMap_append, tableFallbacks, cycles, endpoints, user, repeated,
    List.append_nil]

theorem declaredFallbacks (backend : Backend) (config : Config) :
    backend.declarations.filterMap Column.fallback? =
      ((generate backend config).warnings.filterMap Warning.fallback?).map Prod.snd ++
        backend.auth.userColumns.filterMap Column.fallback? := by
  rw [warningFallbacks, Backend.declarations, List.filterMap_append, List.filterMap_flatMap, List.map_flatMap]
  simp [Function.comp_def]

theorem fallbackNone {columns : List Column} : columns.filterMap Column.fallback? = [] ↔
    ∀ column ∈ columns, ∀ raw, column.type ≠ .unknown raw := by
  rw [List.filterMap_eq_nil_iff]
  refine forall₂_congr fun column _ => ?_
  obtain ⟨name, type, constraints⟩ := column
  cases type <;> simp [Column.fallback?]

theorem dialectsEmitted (backend : Backend) (config : Config) :
    ∀ file ∈ dialectFiles backend config, file ∈ emitted backend config := by
  simp [dialectFiles, emitted, schemaPath, migrationPath, middlewarePath]

theorem dialectsAsText (backend : Backend) (config : Config) :
    dialectFiles backend.asText config = dialectFiles backend config := by
  have tables : backend.asText.tables = backend.tables.map Table.asText := rfl
  have endpoints : backend.asText.endpoints = backend.endpoints := rfl
  simp only [dialectFiles, tables, endpoints, schemaAsText, arrangeAsText, migrationAsText, middlewareAsText]

theorem dialectsLast (backend : Backend) (config : Config) :
    ∀ file ∈ dialectFiles backend config, lastAt? file.path (generate backend config).files = some file := by
  have fixed : ∀ path ∈ [schemaPath, migrationPath, middlewarePath],
      path ∈ fixedPaths ∧ path ≠ routeIndexPath := by decide
  intro file member
  obtain ⟨known, apart⟩ := fixed file.path (List.mem_map_of_mem member)
  exact memResolve.mp (fixedResolved (dialectsEmitted backend config file member) known apart)

section

variable {table : Table} {column : Column} {raw : String}

theorem modelWords (declared : column ∈ table.columns) (unknown : column.type = .unknown raw) :
    contains (Schema.model table).text ("\n  " ++ column.name ++ " String") = true := by
  have line : Schema.columnLine column ∈ (Schema.model table).lines :=
    List.mem_append_left _ (List.mem_map_of_mem declared)
  have stored : (Schema.columnLine column).stored? = some (column.name, "String") := by
    rw [Schema.columnLine, unknown]
    rfl
  obtain ⟨rest, text⟩ := Schema.storedOpensText stored
  have opens : "\n  " ++ (Schema.columnLine column).text = "\n  " ++ column.name ++ " String" ++ rest := by
    rw [text]
    simp only [String.append_assoc]
    rfl
  refine containsTrans ?_ (containsLeft (containsRight (containsJoined (List.mem_map_of_mem line))))
  rw [opens]
  exact containsLeft containsSelf

theorem statementWords (declared : column ∈ table.columns) (unknown : column.type = .unknown raw) :
    contains (createTable table).text ("\n  \"" ++ column.name ++ "\" TEXT") = true := by
  have heading : (column.name, "TEXT") ∈ (createTable table).columns.map SqlColumn.heading := by
    rw [Migration.createTableHeadings]
    refine List.mem_append_left _ (List.mem_map.mpr ⟨column, declared, ?_⟩)
    rw [unknown]
    rfl
  obtain ⟨stored, inside, same⟩ := List.mem_map.mp heading
  obtain ⟨name, type⟩ := Prod.mk.inj same
  obtain ⟨rest, text⟩ := Migration.headingOpensText stored
  refine containsTrans ?_ (containsLeft (containsRight (containsBetween "," (List.mem_map_of_mem inside))))
  have opens : "\n  " ++ stored.text = "\n  \"" ++ column.name ++ "\" TEXT" ++ rest := by
    rw [text, name, type]
    simp only [String.append_assoc]
    rfl
  rw [opens]
  exact containsLeft containsSelf

end

theorem fallbacksWorded (backend : Backend) (config : Config) : Worded backend config where
  model table member column declared raw unknown := by
    refine containsTrans (modelWords declared unknown) ?_
    exact containsLeft (containsRight (containsJoined (List.mem_map_of_mem member)))
  statement table member column declared raw unknown := by
    have created : createTable table ∈
        ((arrange config.order backend.tables).tables backend.tables).map createTable :=
      List.mem_map_of_mem ((Migration.arrangedTables config.order backend.tables).mem_iff.mpr member)
    refine containsTrans (statementWords declared unknown) ?_
    exact containsLeft (containsRight (containsJoined (List.mem_map_of_mem created)))
  user column declared raw unknown := by
    have written : "  " ++ column.name ++ (if column.isOptional then "?" else "") ++ ": string;\n" =
        (Auth.userField column).text ++ "\n" := by
      simp only [Auth.userField, Auth.UserField.text, unknown, ColumnType.tsType, String.append_assoc]
      rfl
    have field : (Auth.userField column).text ∈
        (Auth.middleware backend.auth backend.endpoints).userFields.map Auth.UserField.text :=
      List.mem_map_of_mem (List.mem_map_of_mem declared)
    rw [written]
    exact unlinesHolds (List.mem_append_left _ (List.mem_append_right _ field))

theorem fallbacksTold (backend : Backend) (config : Config) : FallbacksTold backend config where
  worded := fallbacksWorded backend config
  rendered file member := by
    have changed := dialectsLast backend.asText config file
    rw [dialectsAsText] at changed
    exact ⟨dialectsLast backend config file member, changed member⟩
  told := warningFallbacks backend config
  counted := by
    rw [declaredFallbacks backend config, List.length_append, List.length_map]
  complete := by
    rw [declaredFallbacks backend config, List.self_eq_append_right, fallbackNone]

/- The user model has a type that no dialect knows. -/
def atlas : Backend where
  auth := { userColumns := [⟨"location", .unknown "geometry", []⟩] }

theorem userFallbackUntold :
    atlas.declarations.filterMap Column.fallback? = [("location", "geometry")] ∧
      (Auth.middleware atlas.auth atlas.endpoints).userFields = [⟨"location", "string", false⟩] ∧
      (generate atlas {}).warnings.filterMap Warning.fallback? = [] := by
  rw [warningFallbacks]
  decide

end Project
end Scaffold
