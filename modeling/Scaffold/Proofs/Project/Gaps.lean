import Scaffold.Proofs.Migration.Arrangement
import Scaffold.Proofs.Project.Emission
import Scaffold.Proofs.Text.AsciiLower

/-!
Each kind of warning against what it tells of the backend. None is raised exactly when the backend
leaves no gap.
-/
namespace Scaffold.Project
open Text
open Migration (Refers arrange byDependency)

structure Complete (backend : Backend) (order : Migration.Order) : Prop where
  types : ∀ table ∈ backend.tables, ∀ column ∈ table.columns, ∀ raw, column.type ≠ .unknown raw
  targets : ∀ table ∈ backend.tables, ∀ relation ∈ table.relations,
    (∃ other ∈ backend.tables, other.name = relation.target) ∧ relation.kind ≠ .manyToMany
  acyclic : order = .declared ∨ ∀ i, ¬ Relation.TransGen (Refers backend.tables) i i
  owners : ∀ endpoint ∈ backend.endpoints, ∃ table ∈ backend.tables, Route.NamedIn table endpoint.path
  modules : (backend.endpoints.map fun endpoint => Route.slug endpoint.path).Nodup
  index : ∀ endpoint ∈ backend.endpoints, Route.slug endpoint.path ≠ "index"
  user : ∃ table ∈ backend.tables, SameLetters table.name "user"

theorem columnWarningsNone {table : Table} :
    columnWarnings table = [] ↔ ∀ column ∈ table.columns, ∀ raw, column.type ≠ .unknown raw := by
  simp only [columnWarnings, List.filterMap_eq_nil_iff]
  refine forall₂_congr fun column _ => ?_
  cases column.type <;> simp [ColumnType.isUnknown]

theorem relationWarningsNone {tables : List Table} {table : Table} {relation : Relation} :
    relationWarnings tables table relation = [] ↔
      (∃ other ∈ tables, other.name = relation.target) ∧ relation.kind ≠ .manyToMany := by
  unfold relationWarnings
  rw [List.append_eq_nil_iff]
  refine and_congr ?_ ?_
  · by_cases known : ∃ other ∈ tables, other.name = relation.target <;> simp [known]
  · cases relation.kind <;> simp

theorem tableWarningsNone {tables : List Table} :
    tableWarnings tables = [] ↔
      (∀ table ∈ tables, ∀ column ∈ table.columns, ∀ raw, column.type ≠ .unknown raw) ∧
      ∀ table ∈ tables, ∀ relation ∈ table.relations,
        (∃ other ∈ tables, other.name = relation.target) ∧ relation.kind ≠ .manyToMany := by
  simp only [tableWarnings, List.flatMap_eq_nil_iff, List.append_eq_nil_iff, columnWarningsNone,
    relationWarningsNone]
  exact ⟨fun h => ⟨fun t m => (h t m).1, fun t m => (h t m).2⟩,
    fun h t m => ⟨h.1 t m, h.2 t m⟩⟩

theorem cycleWarningsNone {order : Migration.Order} {tables : List Table} :
    cycleWarnings ((arrange order tables).cycle tables) = [] ↔
      order = .declared ∨ ∀ i, ¬ Relation.TransGen (Refers tables) i i := by
  have reported : ∀ cycle, cycleWarnings cycle = [] ↔ cycle = [] := fun cycle => by
    cases cycle <;> simp [cycleWarnings]
  rw [reported]
  cases order with
  | declared => simp [arrange, Migration.Arrangement.cycle]
  | dependency =>
    rw [arrange, Migration.cycleNone, Migration.leftoverEmptyIff]
    simp

theorem tableTold {tables : List Table} {warning : Warning} : warning ∈ tableWarnings tables ↔
    ∃ table ∈ tables,
      (∃ column ∈ table.columns, column.type.isUnknown = true ∧
        warning = .unknownType table.name column.name column.type.name) ∨
      ∃ relation ∈ table.relations,
        ((∀ other ∈ tables, other.name ≠ relation.target) ∧
          warning = .unknownTarget table.name relation.target) ∨
        (relation.kind = .manyToMany ∧ warning = .manyToManyNotExpanded table.name relation.target) := by
  simp only [tableWarnings, List.mem_flatMap, List.mem_append]
  refine exists_congr fun table => and_congr_right fun _ => or_congr ?_ ?_
  · simp [columnWarnings, eq_comm (a := warning)]
  · refine exists_congr fun relation => and_congr_right fun _ => ?_
    simp only [relationWarnings, List.mem_append]
    refine or_congr ?_ ?_
    · by_cases known : ∃ other ∈ tables, other.name = relation.target <;> simp_all
    · by_cases many : relation.kind = .manyToMany <;> simp [many]

theorem endpointTold {backend : Backend} {warning : Warning} :
    warning ∈ (owned backend).filterMap endpointWarning? ↔
      ∃ endpoint ∈ backend.endpoints, Route.owner? endpoint.path backend.tables = none ∧
        warning = .unresolvedEndpoint endpoint.method endpoint.path := by
  simp only [owned, List.filterMap_map, List.mem_filterMap, Function.comp_apply]
  refine exists_congr fun endpoint => and_congr_right fun _ => ?_
  cases owner : Route.owner? endpoint.path backend.tables <;> simp [endpointWarning?, eq_comm]

theorem cycleTold {cycle : List String} {warning : Warning} :
    warning ∈ cycleWarnings cycle ↔ cycle ≠ [] ∧ warning = .foreignKeyCycle cycle := by
  cases cycle <;> simp [cycleWarnings]

theorem userTold {tables : List Table} {warning : Warning} :
    warning ∈ userWarnings tables ↔ Auth.userTable? tables = none ∧ warning = .missingUserTable := by
  cases user : Auth.userTable? tables <;> simp [userWarnings, user]

theorem circleTold {backend : Backend} {config : Config} {names : List String} :
    .foreignKeyCycle names ∈ (generate backend config).warnings ↔
      names ≠ [] ∧ names = (arrange config.order backend.tables).cycle backend.tables := by
  simp only [generate, gaps, List.mem_append, tableTold, endpointTold, cycleTold, userTold]
  constructor
  · rintro ((((told | ⟨filled, same⟩) | told) | told) | told)
    · simp at told
    · obtain rfl := Warning.foreignKeyCycle.inj same
      exact ⟨filled, rfl⟩
    all_goals simp at told
  · rintro ⟨filled, rfl⟩
    exact .inl (.inl (.inl (.inr ⟨filled, rfl⟩)))

theorem endpointWarningsNone {backend : Backend} :
    (owned backend).filterMap endpointWarning? = [] ↔
      ∀ endpoint ∈ backend.endpoints, ∃ table ∈ backend.tables, Route.NamedIn table endpoint.path := by
  simp only [owned, List.filterMap_map, List.filterMap_eq_nil_iff, ← Route.ownerSome]
  refine forall₂_congr fun endpoint _ => ?_
  cases owner : Route.owner? endpoint.path backend.tables <;> simp [endpointWarning?, owner]

theorem userWarningsNone {tables : List Table} :
    userWarnings tables = [] ↔ ∃ table ∈ tables, SameLetters table.name "user" := by
  have small : asciiLower "user" = "user" := by decide
  have found : userWarnings tables = [] ↔ (Auth.userTable? tables).isSome = true := by
    cases user : Auth.userTable? tables <;> simp [userWarnings, user]
  rw [found, Auth.userTable?, List.find?_isSome]
  simp [sameLettersIff, small]

theorem servedAll {backend : Backend}
    (owners : ∀ endpoint ∈ backend.endpoints, ∃ table ∈ backend.tables,
      Route.NamedIn table endpoint.path) : served backend = backend.endpoints := by
  rw [served, List.filter_eq_self]
  intro endpoint member
  exact Option.isSome_iff_ne_none.mpr (Route.ownerSome.mpr (owners endpoint member))

/- Whether paths repeat depends on which endpoints are served, so the last kind of warning can only be
read off the backend once every endpoint is known to have an owner. -/
theorem warningsNoneIff (backend : Backend) (config : Config) :
    (generate backend config).warnings = [] ↔ Complete backend config.order := by
  simp only [generate, gaps, List.append_eq_nil_iff, List.map_eq_nil_iff, tableWarningsNone,
    cycleWarningsNone, endpointWarningsNone, userWarningsNone, repeatedNone, emittedOnce]
  constructor
  · rintro ⟨⟨⟨⟨⟨types, targets⟩, acyclic⟩, owners⟩, user⟩, modules, index⟩
    rw [servedAll owners] at modules index
    exact ⟨types, targets, acyclic, owners, modules, index, user⟩
  · intro complete
    rw [servedAll complete.owners]
    exact ⟨⟨⟨⟨⟨complete.types, complete.targets⟩, complete.acyclic⟩, complete.owners⟩,
      complete.user⟩, complete.modules, complete.index⟩

end Scaffold.Project
