import Scaffold.Proofs.Migration.Arrangement

/-!
The search for a creation order told in rounds. Each round takes the first position whose references
are all placed; the search ends when no position is left that can be taken.
-/
namespace Scaffold.Migration

structure Free (tables : List Table) (placed : List Nat) (i : Nat) : Prop where
  inside : i < tables.length
  waiting : i ∉ placed
  met : ∀ d, Refers tables i d → d ∈ placed

inductive Rounds (tables : List Table) : List Nat → Prop where
  | start : Rounds tables []
  | take {placed i} (earlier : Rounds tables placed) (free : Free tables placed i)
      (first : ∀ j < i, ¬ Free tables placed j) : Rounds tables (placed ++ [i])

variable {tables : List Table} {placed waiting : List Nat} {i : Nat}

theorem waitingIff (valid : Placing (needs tables) (List.range tables.length) placed waiting) :
    i ∈ waiting ↔ i < tables.length ∧ i ∉ placed := by
  have once := valid.all.nodup_iff.mpr List.nodup_range
  have member := valid.all.mem_iff (a := i)
  rw [List.mem_append, List.mem_range] at member
  constructor
  · intro waits
    exact ⟨member.mp (.inr waits), fun done => (List.nodup_append.mp once).2.2 i done i waits rfl⟩
  · rintro ⟨inside, fresh⟩
    exact (member.mpr inside).resolve_left fresh

theorem leftoverUnsorted : i ∈ (byDependency tables).leftover ↔
    i < tables.length ∧ i ∉ (byDependency tables).sorted :=
  waitingIff (byDependencySettles tables).toPlacing

theorem freeIff (valid : Placing (needs tables) (List.range tables.length) placed waiting) :
    Free tables placed i ↔ i ∈ waiting ∧ (needs tables i).all placed.contains = true := by
  rw [waitingIff valid, List.all_eq_true]
  simp only [List.contains_eq_mem, decide_eq_true_eq, memNeeds]
  exact ⟨fun free => ⟨⟨free.inside, free.waiting⟩, free.met⟩, fun h => ⟨h.1.1, h.1.2, h.2⟩⟩

/- What waits stands in the declared order, so the first that is found is the least that is free. -/
theorem foundFirst (valid : Placing (needs tables) (List.range tables.length) placed waiting)
    (found : waiting.find? (fun i => (needs tables i).all placed.contains) = some i) :
    Free tables placed i ∧ ∀ j < i, ¬ Free tables placed j := by
  obtain ⟨ready, before, after, split, passed⟩ := List.find?_eq_some_iff_append.mp found
  refine ⟨(freeIff valid).mpr ⟨List.mem_of_find?_eq_some found, ready⟩, fun j lower free => ?_⟩
  obtain ⟨waits, met⟩ := (freeIff valid).mp free
  have ascending := List.pairwise_lt_range.sublist valid.declared
  rw [split] at waits ascending
  rcases List.mem_append.mp waits with early | late
  · simpa [met] using passed j early
  · rcases List.mem_cons.mp late with rfl | later
    · exact Nat.lt_irrefl _ lower
    · have higher := (List.pairwise_cons.mp (List.pairwise_append.mp ascending).2.1).1 j later
      exact Nat.lt_asymm lower higher

theorem placeRounds (valid : Placing (needs tables) (List.range tables.length) placed waiting)
    (rounds : Rounds tables placed) : Rounds tables (place (needs tables) placed waiting).sorted := by
  fun_induction place (needs tables) placed waiting with
  | case1 placed waiting i found ih =>
    obtain ⟨free, first⟩ := foundFirst valid found
    exact ih (placingStep valid found) (.take rounds free first)
  | case2 => exact rounds

theorem byDependencyRounds (tables : List Table) : Rounds tables (byDependency tables).sorted := by
  rw [byDependencyPlaces]
  exact placeRounds ⟨by simp, List.Sublist.refl _, .nil⟩ .start

theorem noneFree (tables : List Table) (i : Nat) : ¬ Free tables (byDependency tables).sorted i := by
  intro free
  have left := (memArranged.mpr free.inside).resolve_left free.waiting
  obtain ⟨d, unplaced, refers⟩ := leftoverLeads left
  exact (leftoverUnsorted.mp unplaced).2 (free.met d refers)

/- What was placed before a position was taken is what stands before it in the end. -/
theorem roundsAt {order : List Nat} (rounds : Rounds tables order) {n : Nat}
    (found : order[n]? = some i) :
    Free tables (order.take n) i ∧ ∀ j < i, ¬ Free tables (order.take n) j := by
  induction rounds with
  | start => simp at found
  | @take placed last _ free first ih =>
    rcases atConcat.mp found with early | ⟨rfl, rfl⟩
    · have inside : n < placed.length := (List.getElem?_eq_some_iff.mp early).1
      rw [List.take_append_of_le_length (Nat.le_of_lt inside)]
      exact ih early
    · rw [List.take_left]
      exact ⟨free, first⟩

theorem filterMapSome {α β : Type} {f : α → Option β} {as : List α}
    (total : ∀ a ∈ as, (f a).isSome) : (as.filterMap f).map some = as.map f := by
  refine List.ext_getElem? fun n => ?_
  rw [List.getElem?_map, List.getElem?_map, filterMapAt total]
  cases found : as[n]? with
  | none => rfl
  | some a =>
    obtain ⟨b, same⟩ := Option.isSome_iff_exists.mp (total a (List.mem_of_getElem? found))
    simp [same]

theorem arrangedInside (order : Order) (member : i ∈ (arrange order tables).sorted ++
    (arrange order tables).leftover) : (tables[i]?).isSome := by
  have inside := List.mem_range.mp ((arrangedPositions order tables).mem_iff.mp member)
  simp [inside]

theorem cycleNamed (tables : List Table) : ((byDependency tables).cycle tables).map some =
    (byDependency tables).leftover.map fun i => (tables[i]?).map (·.name) := by
  have inside : ∀ i ∈ (byDependency tables).leftover, (tables[i]?).isSome :=
    fun i member => arrangedInside .dependency (List.mem_append_right _ member)
  have names := congrArg (List.map (Option.map Table.name)) (filterMapSome inside)
  simpa [Arrangement.cycle, Function.comp_def] using names

structure Orders (tables : List Table) (result : Arrangement) : Prop where
  rounds : Rounds tables result.sorted
  exhausted : ∀ i, ¬ Free tables result.sorted i
  every : (result.sorted ++ result.leftover).Perm (List.range tables.length)
  named : (result.tables tables).map some =
    result.sorted.map (tables[·]?) ++ result.leftover.map (tables[·]?)
  earlier : ∀ (n i d : Nat), result.sorted[n]? = some i → Refers tables i d →
    ∃ m : Nat, m < n ∧ result.sorted[m]? = some d
  declared : result.leftover.Pairwise (· < ·)
  cycle : (result.cycle tables).map some =
    result.leftover.map fun i => (tables[i]?).map (·.name)
  onward : ∀ i ∈ result.leftover, ∃ d ∈ result.leftover, Refers tables i d

theorem dependencyOrders (tables : List Table) : Orders tables (byDependency tables) := by
  have settled := byDependencySettles tables
  have inside : ∀ i ∈ (byDependency tables).sorted ++ (byDependency tables).leftover,
      (tables[i]?).isSome := fun i => arrangedInside .dependency
  refine ⟨byDependencyRounds tables, noneFree tables, settled.all, ?_, fun n i d => sortedBefore, ?_,
    cycleNamed tables, fun i => leftoverLeads⟩
  · rw [Arrangement.tables, filterMapSome inside, List.map_append]
  · exact List.pairwise_lt_range.sublist settled.declared

end Scaffold.Migration
