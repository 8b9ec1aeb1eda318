import Scaffold.Proofs.Migration.Statement
import Scaffold.Proofs.Text.Lines
import Scaffold.Schema

/-!
The schema and the migration by their lines. Where no text of a table is broken into lines, both can be taken
apart again: the lines of each table are found, with the commas that separate the columns and no others.
-/
namespace Scaffold
open Text
open Migration (SqlColumn Statement createTable)

structure Table.OneLined (table : Table) : Prop where
  name : OneLine table.name
  columns : ∀ column ∈ table.columns, OneLine column.name
  raws : ∀ column ∈ table.columns, ∀ raw, .other raw ∈ column.constraints → OneLine raw
  targets : ∀ relation ∈ table.relations, OneLine relation.target

variable {table : Table}

theorem lowerOneLine {s : String} (whole : OneLine s) : OneLine (lower s) :=
  fun member => whole (lowerFeed member)

theorem foreignKeyOneLine {target : String} (whole : OneLine target) : OneLine (foreignKey target) :=
  oneLineAppend.mpr ⟨lowerOneLine whole, by decide⟩

theorem wordsOneLine {words : List String} (whole : ∀ word ∈ words, OneLine word) :
    OneLine (String.join (words.map (" " ++ ·))) := by
  apply oneLineJoin.mpr
  intro spaced member
  obtain ⟨word, inside, same⟩ := List.mem_map.mp member
  rw [← same]
  exact oneLineAppend.mpr ⟨by decide, whole word inside⟩

theorem targetOneLine (whole : table.OneLined) {target : String} (named : target ∈ table.foreignTargets) :
    OneLine target := by
  obtain ⟨relation, declared, -, same⟩ := Migration.memForeignTargets.mp named
  exact same ▸ whole.targets relation declared

namespace Migration

variable {column : SqlColumn}

/- The words of a column that come from no name. -/
structure SqlColumn.Worded (column : SqlColumn) : Prop where
  type : ∃ kind : ColumnType, column.type = kind.sqlType
  clauses : ∀ clause ∈ column.clauses, ∃ constraint : Constraint, constraint.sqlClause? = some clause

theorem createTableWorded (member : column ∈ (createTable table).columns) : column.Worded := by
  rw [createTableColumns, List.mem_append] at member
  cases member with
  | inl own =>
    obtain ⟨i, inside, same⟩ := List.mem_mapIdx.mp own
    have clauses : column.clauses = table.columns[i].constraints.filterMap Constraint.sqlClause? := by
      rw [← same]
      rfl
    constructor
    · exact ⟨table.columns[i].type, by rw [← same]; rfl⟩
    · intro clause member
      rw [clauses] at member
      obtain ⟨constraint, -, written⟩ := List.mem_filterMap.mp member
      exact ⟨constraint, written⟩
  | inr added =>
    obtain ⟨target, -, same⟩ := List.mem_map.mp added
    rw [← same]
    exact ⟨⟨.text, rfl⟩, fun clause member => absurd member List.not_mem_nil⟩

theorem createTableNamed (whole : table.OneLined) (member : column ∈ (createTable table).columns) :
    OneLine column.name := by
  rw [createTableColumns, List.mem_append] at member
  cases member with
  | inl own =>
    obtain ⟨i, inside, same⟩ := List.mem_mapIdx.mp own
    rw [← same]
    exact whole.columns table.columns[i] (List.getElem_mem inside)
  | inr added =>
    obtain ⟨target, listed, same⟩ := List.mem_map.mp added
    rw [← same]
    exact foreignKeyOneLine (targetOneLine whole (List.mem_filter.mp listed).1)

theorem typeOneLine (type : ColumnType) : OneLine type.sqlType := by
  cases type <;> simp only [ColumnType.sqlType] <;> decide

theorem typeCloses (type : ColumnType) : Closes type.sqlType := by
  cases type <;> simp only [ColumnType.sqlType] <;> decide

theorem clausePlain {constraint : Constraint} {clause : String}
    (written : constraint.sqlClause? = some clause) : OneLine clause ∧ Closes clause := by
  cases constraint with
  | primaryKey | unique | defaultNow =>
    cases written
    decide
  | generatedId | optional | other => cases written

theorem columnOneLine (whole : table.OneLined) (member : column ∈ (createTable table).columns) :
    OneLine column.text := by
  obtain ⟨⟨kind, type⟩, clauses⟩ := createTableWorded member
  have words : OneLine (String.join (column.clauses.map (" " ++ ·))) := by
    apply wordsOneLine
    intro clause inside
    obtain ⟨constraint, written⟩ := clauses clause inside
    exact (clausePlain written).1
  have name := createTableNamed whole member
  rw [SqlColumn.text, type]
  simp only [oneLineAppend]
  refine ⟨⟨⟨⟨⟨by decide, name⟩, by decide⟩, typeOneLine kind⟩, words⟩, ?_⟩
  cases refers : column.target? with
  | none => decide
  | some target =>
    have target := targetOneLine whole (referenceDeclared member refers)
    simp only [oneLineAppend]
    exact ⟨⟨by decide, target⟩, by decide⟩

theorem columnCloses (member : column ∈ (createTable table).columns) : Closes column.text := by
  obtain ⟨⟨kind, type⟩, clauses⟩ := createTableWorded member
  rw [SqlColumn.text]
  cases column.target? with
  | some target => exact closesAppend (closesAppend (by decide))
  | none =>
    rw [String.append_empty]
    rcases List.eq_nil_or_concat' column.clauses with none | ⟨front, last, some⟩
    · rw [none, type]
      simpa using closesAppend (typeCloses kind)
    · obtain ⟨constraint, written⟩ := clauses last (by simp [some])
      rw [some, List.map_append, String.join_append]
      simpa using closesAppend (closesAppend (closesAppend (clausePlain written).2))

/- The name of the table and the texts of its columns. -/
def Statement.parts (statement : Statement) : String × List String :=
  (statement.name, statement.columns.map SqlColumn.text)

def tableBlock (parts : String × List String) : Block :=
  ⟨"CREATE TABLE \"" ++ parts.1 ++ "\" (", punctuated parts.2⟩

/- The lines of a statement, with the empty line behind it. -/
def Statement.lines (statement : Statement) : List String :=
  (tableBlock statement.parts).lines ");"

theorem tableBlockInjective : Function.Injective tableBlock := by
  intro left right same
  have opening : "CREATE TABLE \"" ++ left.1 ++ "\" (" = "CREATE TABLE \"" ++ right.1 ++ "\" (" :=
    congrArg Block.opening same
  have name := (String.append_right_inj _).mp ((String.append_left_inj _).mp opening)
  exact Prod.ext name (punctuatedInjective (congrArg Block.body same))

theorem statementLines (statement : Statement) :
    statement.text ++ "\n" = "\n" ++ unlines statement.lines := by
  have columns := punctuatedJoin (statement.columns.map SqlColumn.text)
  have lines := blockLines ");" ("CREATE TABLE \"" ++ statement.name ++ "\" (")
    (punctuated (statement.columns.map SqlColumn.text))
  rw [← columns, List.map_map] at lines
  refine Eq.trans ?_ lines
  have text : statement.text ++ "\n" = "\n" ++ "CREATE TABLE \"" ++ statement.name ++ "\" (" ++
      String.intercalate "," (statement.columns.map ("\n  " ++ ·.text)) ++ ("\n" ++ ");" ++ "\n") ++ "\n" := rfl
  rw [text]
  simp only [String.append_assoc]
  rfl

theorem textLines (tables : List Table) :
    text tables = "-- CreateTable" ++ ("\n" ++ unlines (tables.flatMap fun table => (createTable table).lines)) := by
  have each : ∀ table : Table, (createTable table).text ++ "\n" = "\n" ++ unlines (createTable table).lines :=
    fun table => statementLines (createTable table)
  have joined := joinLines each tables
  have text : text tables =
      "-- CreateTable" ++ String.join ((tables.map createTable).map Statement.text) ++ "\n" := rfl
  rw [List.map_map] at text
  exact text.trans (String.append_assoc.trans (congrArg ("-- CreateTable" ++ ·) joined))

theorem statementOneLine (whole : table.OneLined) : ∀ line ∈ (createTable table).lines, OneLine line := by
  have opening : OneLine ("CREATE TABLE \"" ++ table.name ++ "\" (") :=
    oneLineAppend.mpr ⟨oneLineAppend.mpr ⟨by decide, whole.name⟩, by decide⟩
  have body : ∀ line ∈ punctuated ((createTable table).columns.map SqlColumn.text), OneLine line := by
    apply punctuatedOneLine
    intro text member
    obtain ⟨column, inside, same⟩ := List.mem_map.mp member
    exact same ▸ columnOneLine whole inside
  exact blockOneLine opening body (by decide)

theorem textKeeps {left right : List Table} (leftWhole : ∀ table ∈ left, table.OneLined)
    (rightWhole : ∀ table ∈ right, table.OneLined) (same : text left = text right) :
    (left.map fun table => (createTable table).parts) = right.map fun table => (createTable table).parts := by
  rw [textLines, textLines, String.append_right_inj, String.append_right_inj] at same
  exact partsKept tableBlockInjective (by decide) (fun table member => statementOneLine (leftWhole table member))
    (fun table member => statementOneLine (rightWhole table member)) same

/-- The lines of the migration. Of a statement, the first line opens it and one for each column follows: these
end in a comma, but for the last of them, and no other line does. -/
structure Punctuated (tables : List Table) : Prop where
  lines : splitAt '\n' (text tables) =
    "-- CreateTable" :: (tables.flatMap fun table => (createTable table).lines) ++ [""]
  commas : ∀ table ∈ tables, ∀ i line, (createTable table).lines[i]? = some line →
    (EndsInComma line ↔ 1 ≤ i ∧ i < (createTable table).columns.length)
  frame : ¬ EndsInComma "-- CreateTable" ∧ ¬ EndsInComma ""

theorem statementCommas (table : Table) {i : Nat} {line : String}
    (found : (createTable table).lines[i]? = some line) :
    EndsInComma line ↔ 1 ≤ i ∧ i < (createTable table).columns.length := by
  have each : ∀ word ∈ (createTable table).columns.map SqlColumn.text, Closes word := by
    intro word member
    obtain ⟨column, inside, same⟩ := List.mem_map.mp member
    exact same ▸ columnCloses inside
  have opens : Closes ("CREATE TABLE \"" ++ table.name ++ "\" (") := closesAppend (by decide)
  rw [← List.length_map SqlColumn.text]
  exact blockCommas opens (by decide) each found

theorem textPunctuated {tables : List Table} (whole : ∀ table ∈ tables, table.OneLined) :
    Punctuated tables := by
  have free : ∀ line ∈ "-- CreateTable" :: tables.flatMap fun table => (createTable table).lines, OneLine line := by
    refine List.forall_mem_cons.mpr ⟨by decide, fun line member => ?_⟩
    obtain ⟨table, inside, found⟩ := List.mem_flatMap.mp member
    exact statementOneLine (whole table inside) line found
  have last : splitAt '\n' "" = [""] := by decide
  constructor
  · have parts := splitAtUnlines free ""
    rw [String.append_empty, last] at parts
    rw [← parts, textLines, ← String.append_assoc]
    simp only [unlines, List.map_cons, String.join_cons]
  · exact fun table _ i line found => statementCommas table found
  · decide

end Migration

namespace Schema

/- The name of the model and the texts of its lines. -/
def Model.parts (model : Model) : String × List String :=
  (model.name, model.lines.map Line.text)

def modelBlock (parts : String × List String) : Block :=
  ⟨"model " ++ parts.1 ++ " \x7b", parts.2⟩

theorem modelBlockInjective : Function.Injective modelBlock := by
  intro left right same
  have opening := congrArg Block.opening same
  have body := congrArg Block.body same
  simp only [modelBlock, String.append_right_inj, String.append_left_inj] at opening body
  exact Prod.ext opening body

theorem modelLines (model : Model) :
    model.text ++ "\n" = "\n" ++ unlines ((modelBlock model.parts).lines "\x7d") := by
  have lines := blockLines "\x7d" ("model " ++ model.name ++ " \x7b") (model.lines.map Line.text)
  have text : model.text ++ "\n" = "\n" ++ "model " ++ model.name ++ " \x7b" ++
      String.join (model.lines.map ("\n  " ++ ·.text)) ++ ("\n" ++ "\x7d" ++ "\n") ++ "\n" := rfl
  rw [List.map_map] at lines
  rw [text, Model.parts, modelBlock, ← lines]
  simp only [String.append_assoc]
  rfl

theorem textLines (tables : List Table) : text tables =
    header ++ ("\n" ++ unlines (tables.flatMap fun table => (modelBlock (model table).parts).lines "\x7d")) := by
  have each : ∀ table : Table,
      (model table).text ++ "\n" = "\n" ++ unlines ((modelBlock (model table).parts).lines "\x7d") :=
    fun table => modelLines (model table)
  rw [← joinLines each, ← String.append_assoc, text]

theorem attributeOneLine {constraint : Constraint} (whole : ∀ raw, constraint = .other raw → OneLine raw)
    {word : String} (written : constraint.schemaAttribute? = some word) : OneLine word := by
  cases constraint with
  | primaryKey | unique | defaultNow | generatedId =>
    cases written
    decide
  | optional => cases written
  | other raw =>
    cases written
    exact whole _ rfl

theorem columnLineOneLine (whole : table.OneLined) {column : Column} (member : column ∈ table.columns) :
    OneLine (columnLine column).text := by
  have type : OneLine column.type.schemaType := by
    cases column.type <;> simp only [ColumnType.schemaType] <;> decide
  have attributes : OneLine (String.join
      ((column.constraints.filterMap Constraint.schemaAttribute?).map (" " ++ ·))) := by
    apply wordsOneLine
    intro word inside
    obtain ⟨constraint, declared, written⟩ := List.mem_filterMap.mp inside
    apply attributeOneLine _ written
    intro raw same
    exact whole.raws column member raw (same ▸ declared)
  have mark : OneLine (if column.isOptional then "?" else "") := by
    split <;> decide
  rw [columnLine, Line.text]
  simp only [oneLineAppend]
  exact ⟨⟨⟨⟨whole.columns column member, by decide⟩, type⟩, mark⟩, attributes⟩

theorem relationOneLine {target : String} (whole : OneLine target) {line : Line}
    (related : line = .record target ∨ line = .key target ∨ line = .records target) : OneLine line.text := by
  have small := lowerOneLine whole
  have key := foreignKeyOneLine whole
  rcases related with same | same | same <;> rw [same, Line.text] <;> simp only [oneLineAppend]
  · exact ⟨⟨⟨⟨⟨small, by decide⟩, whole⟩, by decide⟩, key⟩, by decide⟩
  · exact ⟨key, by decide⟩
  · exact ⟨⟨⟨small, by decide⟩, whole⟩, by decide⟩

theorem lineOneLine (whole : table.OneLined) {line : Line} (member : line ∈ (model table).lines) :
    OneLine line.text := by
  rw [model, List.mem_append] at member
  cases member with
  | inl declared =>
    obtain ⟨column, inside, same⟩ := List.mem_map.mp declared
    exact same ▸ columnLineOneLine whole inside
  | inr related =>
    obtain ⟨relation, inside, found⟩ := List.mem_flatMap.mp related
    apply relationOneLine (whole.targets relation inside)
    unfold relationLines at found
    split at found
    · split at found
      · exact .inl (List.mem_singleton.mp found)
      · rcases List.mem_cons.mp found with record | key
        · exact .inl record
        · exact .inr (.inl (List.mem_singleton.mp key))
    · exact .inr (.inr (List.mem_singleton.mp found))
    · cases found

theorem modelOneLine (whole : table.OneLined) :
    ∀ line ∈ (modelBlock (model table).parts).lines "\x7d", OneLine line := by
  have opening : OneLine ("model " ++ table.name ++ " \x7b") :=
    oneLineAppend.mpr ⟨oneLineAppend.mpr ⟨by decide, whole.name⟩, by decide⟩
  have body : ∀ line ∈ (model table).lines.map Line.text, OneLine line := by
    intro text member
    obtain ⟨line, inside, same⟩ := List.mem_map.mp member
    exact same ▸ lineOneLine whole inside
  exact blockOneLine opening body (by decide)

theorem textKeeps {left right : List Table} (leftWhole : ∀ table ∈ left, table.OneLined)
    (rightWhole : ∀ table ∈ right, table.OneLined) (same : text left = text right) :
    (left.map fun table => (model table).parts) = right.map fun table => (model table).parts := by
  rw [textLines, textLines, String.append_right_inj, String.append_right_inj] at same
  exact partsKept modelBlockInjective (by decide) (fun table member => modelOneLine (leftWhole table member))
    (fun table member => modelOneLine (rightWhole table member)) same

end Schema

theorem textsKept {left right : List Table} (leftWhole : ∀ table ∈ left, table.OneLined)
    (rightWhole : ∀ table ∈ right, table.OneLined) :
    (Migration.text left = Migration.text right →
      (left.map fun table => (createTable table).parts) = right.map fun table => (createTable table).parts) ∧
    (Schema.text left = Schema.text right →
      (left.map fun table => (Schema.model table).parts) = right.map fun table => (Schema.model table).parts) ∧
    Migration.Punctuated left :=
  ⟨Migration.textKeeps leftWhole rightWhole, Schema.textKeeps leftWhole rightWhole,
    Migration.textPunctuated leftWhole⟩

/- Every name here looks like a piece of the text around it. -/
def quotedTable (relations : List Relation) : Table :=
  { name := "(\");\x7d, "
    columns := [⟨"\" TEXT,", .text, [.primaryKey, .other "@map(\x7d),"]⟩, ⟨");", .unknown ",", [.optional, .unique]⟩]
    relations := ⟨"\"(id),", .manyToOne⟩ :: relations }

theorem quotedOneLined (relations : List Relation) (whole : ∀ relation ∈ relations, OneLine relation.target) :
    (quotedTable relations).OneLined := by
  constructor
  · simp only [quotedTable]
    decide
  · simp only [quotedTable]
    decide
  · intro column member raw other
    have only : raw = "@map(\x7d)," := by
      simp only [quotedTable, List.mem_cons, List.not_mem_nil, or_false] at member
      rcases member with same | same
      · simpa [same] using other
      · simp [same] at other
    exact only ▸ by decide
  · exact List.forall_mem_cons.mpr ⟨by decide, whole⟩

theorem quotedKept :
    (∀ table ∈ [quotedTable []], table.OneLined) ∧
    (∀ table ∈ [quotedTable [⟨"\x7d", .manyToMany⟩]], table.OneLined) ∧
    ((createTable (quotedTable [])).parts = (createTable (quotedTable [⟨"\x7d", .manyToMany⟩])).parts) ∧
    ((Schema.model (quotedTable [])).parts = (Schema.model (quotedTable [⟨"\x7d", .manyToMany⟩])).parts) ∧
    Migration.Punctuated [quotedTable []] := by
  have plain : ∀ table ∈ [quotedTable []], table.OneLined :=
    List.forall_mem_singleton.mpr (quotedOneLined [] (by simp))
  have related : ∀ table ∈ [quotedTable [⟨"\x7d", .manyToMany⟩]], table.OneLined :=
    List.forall_mem_singleton.mpr (quotedOneLined _ (by decide))
  obtain ⟨migration, schema, punctuated⟩ := textsKept plain related
  have migration := migration rfl
  have schema := schema rfl
  simp only [List.map_cons, List.map_nil, List.cons.injEq] at migration schema
  exact ⟨plain, related, migration.1, schema.1, punctuated⟩

end Scaffold
