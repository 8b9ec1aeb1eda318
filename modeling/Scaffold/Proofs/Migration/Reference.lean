import Scaffold.Migration.Order

/-!
References between tables, read off the declaration. Tables are positions; a name that several tables
bear means the last of them, and neither an unknown name nor a table's own makes a reference.
-/
namespace Scaffold.Migration

structure LastBearer (tables : List Table) (name : String) (i : Nat) : Prop where
  bears : ∃ table, tables[i]? = some table ∧ table.name = name
  last : ∀ j table, i < j → tables[j]? = some table → table.name ≠ name

/- A many-to-one relation of the table at position `i` leads to another table, the one at `d`. -/
inductive Refers (tables : List Table) (i d : Nat) : Prop where
  | intro {table relation} (found : tables[i]? = some table) (declared : relation ∈ table.relations)
      (kind : relation.kind = .manyToOne) (bearer : LastBearer tables relation.target d)
      (other : d ≠ i) : Refers tables i d

theorem placedOnce {α : Type} {as : List α} (once : as.Nodup) {m n : Nat} {a : α}
    (left : as[m]? = some a) (right : as[n]? = some a) : m = n :=
  (List.getElem?_inj (List.getElem?_eq_some_iff.mp left).1 once).mp (left.trans right.symm)

theorem lastBearerUnique {tables name i j} (left : LastBearer tables name i)
    (right : LastBearer tables name j) : i = j := by
  obtain ⟨a, ha, named⟩ := left.bears
  obtain ⟨b, hb, same⟩ := right.bears
  rcases Nat.lt_trichotomy i j with before | equal | after
  · exact absurd same (left.last j b before hb)
  · exact equal
  · exact absurd named (right.last i a after ha)

theorem bearerOfDistinct {tables : List Table} (distinct : (tables.map (·.name)).Nodup) {i table}
    (found : tables[i]? = some table) : LastBearer tables table.name i := by
  refine ⟨⟨table, found, rfl⟩, fun j other later atOther same => ?_⟩
  have left : (tables.map (·.name))[i]? = some table.name := by simp [found]
  have right : (tables.map (·.name))[j]? = some table.name := by simp [atOther, same]
  exact Nat.ne_of_lt later (placedOnce distinct left right)

theorem bearerNone {tables name} :
    bearer? tables name = none ↔ ∀ table ∈ tables, table.name ≠ name := by
  simp only [bearer?, Option.map_eq_none_iff, List.find?_eq_none, List.mem_reverse]
  constructor
  · intro absent table member same
    obtain ⟨i, bound, rfl⟩ := List.mem_iff_getElem.mp member
    have pair : (tables[i], i) ∈ tables.zipIdx := List.mk_mem_zipIdx_iff_getElem?.mpr (by simp)
    exact absent _ pair (by simp [same])
  · intro absent pair member
    simpa using absent pair.1 (List.fst_mem_of_mem_zipIdx member)

theorem descendingPositions (tables : List Table) :
    tables.zipIdx.reverse.Pairwise fun a b => b.2 < a.2 := by
  rw [List.pairwise_reverse]
  have positions : (tables.zipIdx.map Prod.snd).Pairwise (· < ·) := by
    rw [List.zipIdx_map_snd]
    exact List.pairwise_lt_range'
  simpa only [List.pairwise_map] using positions

/- The search runs from the last table to the first, so what it has skipped is exactly what stands
behind the table it finds. -/
theorem bearerSource {tables name i} (found : bearer? tables name = some i) :
    LastBearer tables name i := by
  obtain ⟨⟨table, position⟩, first, rfl⟩ := Option.map_eq_some_iff.mp found
  obtain ⟨named, before, after, split, skipped⟩ := List.find?_eq_some_iff_append.mp first
  have inside : ∀ {j other},
      tables[j]? = some other ↔ (other, j) ∈ before ++ (table, position) :: after := by
    intro j other
    rw [← split, List.mem_reverse, List.mk_mem_zipIdx_iff_getElem?]
  have descending := descendingPositions tables
  rw [split, List.pairwise_append, List.pairwise_cons] at descending
  refine ⟨⟨table, inside.mpr (by simp), by simpa using named⟩,
    fun j other later atOther same => ?_⟩
  rcases List.mem_append.mp (inside.mp atOther) with early | late
  · simpa [same] using skipped _ early
  · rcases List.mem_cons.mp late with equal | rest
    · cases equal
      exact Nat.lt_irrefl _ later
    · exact Nat.lt_asymm later (descending.2.1.1 _ rest)

theorem bearerIff {tables name i} : bearer? tables name = some i ↔ LastBearer tables name i := by
  refine ⟨bearerSource, fun bearer => ?_⟩
  cases found : bearer? tables name with
  | none =>
    obtain ⟨table, atTable, named⟩ := bearer.bears
    exact absurd named (bearerNone.mp found table (List.mem_of_getElem? atTable))
  | some j => rw [lastBearerUnique (bearerSource found) bearer]

theorem memForeignTargets {table : Table} {target : String} :
    target ∈ table.foreignTargets ↔
      ∃ relation ∈ table.relations, relation.kind = .manyToOne ∧ relation.target = target := by
  simp [Table.foreignTargets, and_assoc]

theorem memNeeds {tables i d} : d ∈ needs tables i ↔ Refers tables i d := by
  unfold needs
  split
  · rename_i table found
    simp only [List.mem_filter, List.mem_filterMap, memForeignTargets, bearerIff, bne_iff_ne]
    constructor
    · rintro ⟨⟨target, ⟨relation, declared, kind, rfl⟩, bearer⟩, other⟩
      exact .intro found declared kind bearer other
    · rintro ⟨atTable, declared, kind, bearer, other⟩
      cases Option.some.inj (found.symm.trans atTable)
      exact ⟨⟨_, ⟨_, declared, kind, rfl⟩, bearer⟩, other⟩
  · rename_i absent
    refine ⟨fun member => absurd member List.not_mem_nil, fun ⟨found, _, _, _, _⟩ => ?_⟩
    rw [absent] at found
    contradiction

theorem refersByName {tables : List Table} (distinct : (tables.map (·.name)).Nodup) {i d : Nat} :
    Refers tables i d ↔ ∃ table other, tables[i]? = some table ∧ tables[d]? = some other ∧
      other.name ∈ table.foreignTargets ∧ d ≠ i := by
  constructor
  · rintro ⟨found, declared, kind, bearer, apart⟩
    obtain ⟨other, atOther, named⟩ := bearer.bears
    have target := memForeignTargets.mpr ⟨_, declared, kind, named.symm⟩
    exact ⟨_, other, found, atOther, target, apart⟩
  · rintro ⟨table, other, found, atOther, target, apart⟩
    obtain ⟨relation, declared, kind, named⟩ := memForeignTargets.mp target
    exact .intro found declared kind (named ▸ bearerOfDistinct distinct atOther) apart

theorem refersBound {tables i d} (refers : Refers tables i d) :
    i < tables.length ∧ d < tables.length := by
  obtain ⟨found, _, _, bearer, _⟩ := refers
  obtain ⟨_, atTarget, _⟩ := bearer.bears
  exact ⟨(List.getElem?_eq_some_iff.mp found).1, (List.getElem?_eq_some_iff.mp atTarget).1⟩

theorem byDependencyPlaces (tables : List Table) :
    byDependency tables = place (needs tables) [] (List.range tables.length) := by
  have lookup : (fun i => ((List.range tables.length).map (needs tables)).toArray.getD i []) =
      needs tables := by
    funext i
    by_cases inside : i < tables.length
    · simp [inside]
    · simp [inside, needs]
  exact congrArg (fun needs => place needs [] (List.range tables.length)) lookup

end Scaffold.Migration
