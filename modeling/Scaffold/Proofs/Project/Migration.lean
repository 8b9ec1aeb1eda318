import Scaffold.Proofs.Migration.Columns
import Scaffold.Proofs.Project.Gaps

/-!
The emitted migration as a text of statements: each table has one, and under an order by dependency that is
told no circle it stands behind those of all tables that it refers to.
-/
namespace Scaffold.Project
open Migration (SqlColumn Statement Refers arrange byDependency createTable script referenceText)

def statements (backend : Backend) (config : Config) : List Statement :=
  ((arrange config.order backend.tables).tables backend.tables).map createTable

def columnWritten (column : SqlColumn) : String :=
  "\n  \"" ++ column.name ++ "\" " ++ column.type ++ String.join (column.clauses.map (" " ++ ·)) ++
    referenceText column.target?

def statementWritten (statement : Statement) : String :=
  "\nCREATE TABLE \"" ++ statement.name ++ "\" (" ++
    String.intercalate "," (statement.columns.map columnWritten) ++ "\n);\n"

/-- Every table is created once in the text, and only behind all other tables that it refers to. -/
structure CreatesInTurn (text : String) (statements : List Statement) (tables : List Table) : Prop where
  whole : text = "-- CreateTable" ++ String.join (statements.map statementWritten) ++ "\n"
  each : statements.Perm (tables.map createTable)
  once : (statements.map (·.name)).Nodup
  earlier : ∀ (i : Nat) (statement : Statement), statements[i]? = some statement →
    ∀ column ∈ statement.columns, ∀ other ∈ tables, column.target? = some other.name →
      other.name ≠ statement.name → ∃ j : Nat, j < i ∧ statements[j]? = some (createTable other)
  related : ∀ table ∈ tables, ∀ other ∈ tables, other.name ∈ table.foreignTargets →
    other.name ≠ table.name → ∃ i j : Nat, i < j ∧ statements[i]? = some (createTable other) ∧
      statements[j]? = some (createTable table)

theorem migrationResolved (backend : Backend) (config : Config) :
    ⟨migrationPath, script (statements backend config)⟩ ∈ (generate backend config).resolved := by
  refine fixedResolved ?_ (by simp [fixedPaths]) (by decide : migrationPath ≠ routeIndexPath)
  exact List.mem_append_left _ (List.mem_append_left _ (List.mem_cons_of_mem _ List.mem_cons_self))

theorem statementsEach (backend : Backend) (config : Config) :
    (statements backend config).Perm (backend.tables.map createTable) :=
  (Migration.arrangedTables config.order backend.tables).map createTable

theorem statementNames (tables : List Table) :
    (tables.map createTable).map (·.name) = tables.map (·.name) := by
  rw [List.map_map]
  rfl

theorem circleUntold {backend : Backend} {config : Config} (order : config.order = .dependency)
    (untold : ∀ names, .foreignKeyCycle names ∉ (generate backend config).warnings) :
    (byDependency backend.tables).leftover = [] := by
  rw [← Migration.cycleNone]
  by_contra circle
  exact untold _ (circleTold.mpr ⟨circle, by rw [order, arrange]⟩)

theorem statementAt {backend : Backend} {config : Config} (order : config.order = .dependency)
    (free : (byDependency backend.tables).leftover = []) {n : Nat} {statement : Statement} :
    (statements backend config)[n]? = some statement ↔
      ∃ (i : Nat) (table : Table), (byDependency backend.tables).sorted[n]? = some i ∧
        backend.tables[i]? = some table ∧ createTable table = statement := by
  rw [statements, order, List.getElem?_map, Migration.arrangedTableAt, arrange, free, List.append_nil]
  simp only [Option.map_eq_some_iff, Option.bind_eq_some_iff]
  constructor
  · rintro ⟨table, ⟨i, sorted, found⟩, equal⟩
    exact ⟨i, table, sorted, found, equal⟩
  · rintro ⟨i, table, sorted, found, equal⟩
    exact ⟨table, ⟨i, sorted, found⟩, equal⟩

variable {backend : Backend} {config : Config}

/- A name means the only table that bears it, so the reference is an edge of the graph that was sorted. -/
theorem targetBefore (distinct : (backend.tables.map (·.name)).Nodup) (order : config.order = .dependency)
    (free : (byDependency backend.tables).leftover = []) {n i : Nat} {table other : Table}
    (sorted : (byDependency backend.tables).sorted[n]? = some i) (found : backend.tables[i]? = some table)
    (inside : other ∈ backend.tables) (declared : other.name ∈ table.foreignTargets)
    (apart : other.name ≠ table.name) :
    ∃ m : Nat, m < n ∧ (statements backend config)[m]? = some (createTable other) := by
  obtain ⟨d, atOther⟩ := List.mem_iff_getElem?.mp inside
  have refers : Refers backend.tables i d := by
    refine (Migration.refersByName distinct).mpr ⟨table, other, found, atOther, declared, ?_⟩
    rintro rfl
    cases Option.some.inj (found.symm.trans atOther)
    exact apart rfl
  obtain ⟨m, before, placed⟩ := Migration.sortedBefore sorted refers
  exact ⟨m, before, (statementAt order free).mpr ⟨d, other, placed, atOther, rfl⟩⟩

theorem tableSorted (free : (byDependency backend.tables).leftover = []) {table : Table}
    (inside : table ∈ backend.tables) :
    ∃ n i : Nat, (byDependency backend.tables).sorted[n]? = some i ∧ backend.tables[i]? = some table := by
  obtain ⟨i, found⟩ := List.mem_iff_getElem?.mp inside
  have arranged := Migration.memArranged.mpr (List.getElem?_eq_some_iff.mp found).1
  rw [free, or_iff_left List.not_mem_nil] at arranged
  obtain ⟨n, sorted⟩ := List.mem_iff_getElem?.mp arranged
  exact ⟨n, i, sorted, found⟩

theorem columnText (column : SqlColumn) : "\n  " ++ column.text = columnWritten column := by
  have opening : "\n  \"" = "\n  " ++ "\"" := rfl
  rw [columnWritten, opening, SqlColumn.text]
  cases column.target? <;> simp only [referenceText, String.append_assoc]

theorem statementText (statement : Statement) : statement.text = statementWritten statement := by
  have columns : statement.columns.map ("\n  " ++ ·.text) = statement.columns.map columnWritten :=
    List.map_congr_left fun column _ => columnText column
  unfold Statement.text statementWritten
  rw [columns]

theorem createsInTurn (distinct : (backend.tables.map (·.name)).Nodup) (order : config.order = .dependency)
    (untold : ∀ names, .foreignKeyCycle names ∉ (generate backend config).warnings) :
    ∃ text, ⟨"prisma/migrations/initial/migration.sql", text⟩ ∈ (generate backend config).resolved ∧
      CreatesInTurn text (statements backend config) backend.tables := by
  have free := circleUntold order untold
  refine ⟨_, migrationResolved backend config, ?_, statementsEach backend config, ?_, ?_, ?_⟩
  · rw [script, funext statementText]
  · rw [((statementsEach backend config).map _).nodup_iff, statementNames]
    exact distinct
  · intro n statement atStatement column member other inside target apart
    obtain ⟨i, table, sorted, found, rfl⟩ := (statementAt order free).mp atStatement
    exact targetBefore distinct order free sorted found inside
      (Migration.referenceDeclared member target) apart
  · intro table member other inside declared apart
    obtain ⟨n, i, sorted, found⟩ := tableSorted free member
    obtain ⟨m, before, placed⟩ := targetBefore distinct order free sorted found inside declared apart
    exact ⟨m, n, before, placed, (statementAt order free).mpr ⟨i, table, sorted, found, rfl⟩⟩

/- A table that refers to itself, a name that no table bears, and a declared key told twice. -/
def billing : Backend where
  tables := [
    ⟨"Invoice", [⟨"userId", .text, []⟩],
      [⟨"User", .manyToOne⟩, ⟨"Client", .manyToOne⟩, ⟨"User", .manyToOne⟩]⟩,
    ⟨"Client", [], [⟨"User", .manyToOne⟩, ⟨"Client", .manyToOne⟩, ⟨"Ghost", .manyToOne⟩]⟩,
    ⟨"User", [], [⟨"Invoice", .oneToMany⟩]⟩]

def billingText : String :=
  "-- CreateTable\n" ++
    "CREATE TABLE \"User\" (\n);\n\n" ++
    "CREATE TABLE \"Client\" (\n  \"userId\" TEXT REFERENCES \"User\"(id),\n" ++
    "  \"clientId\" TEXT REFERENCES \"Client\"(id),\n  \"ghostId\" TEXT REFERENCES \"Ghost\"(id)\n);\n\n" ++
    "CREATE TABLE \"Invoice\" (\n  \"userId\" TEXT REFERENCES \"User\"(id),\n" ++
    "  \"clientId\" TEXT REFERENCES \"Client\"(id)\n);\n\n"

theorem billingInTurn :
    ⟨"prisma/migrations/initial/migration.sql", billingText⟩ ∈
        (generate billing { order := .dependency }).resolved ∧
      CreatesInTurn billingText (statements billing { order := .dependency }) billing.tables := by
  have untold : ∀ names, .foreignKeyCycle names ∉ (generate billing { order := .dependency }).warnings := by
    intro names
    rw [circleTold]
    rintro ⟨some, told⟩
    exact some (told.trans (by decide +kernel))
  obtain ⟨text, resolved, turn⟩ := createsInTurn (by decide) rfl untold
  have literal : text = billingText := turn.whole.trans (by decide +kernel)
  rw [← literal]
  exact ⟨resolved, turn⟩

end Scaffold.Project
