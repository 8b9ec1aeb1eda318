import Scaffold.Proofs.Migration.Rounds

/-!
Where the tables come to stand: the sorted ones in front, those that are left over behind them, and each
table at one place.
-/
namespace Scaffold.Migration

variable {tables : List Table}

def ordered (tables : List Table) : List Table :=
  (byDependency tables).tables tables

def reported (tables : List Table) : List String :=
  (byDependency tables).cycle tables

def places (tables : List Table) : List Nat :=
  (byDependency tables).sorted ++ (byDependency tables).leftover

theorem orderedAt (tables : List Table) (n : Nat) :
    (ordered tables)[n]? = (places tables)[n]?.bind (tables[·]?) :=
  arrangedTableAt .dependency tables n

theorem placesLength (tables : List Table) : (places tables).length = tables.length := by
  rw [places, (byDependencySettles tables).all.length_eq, List.length_range]

theorem orderedLength (tables : List Table) : (ordered tables).length = tables.length :=
  (arrangedTables .dependency tables).length_eq

theorem orderedDistinct (distinct : (tables.map (·.name)).Nodup) :
    ((ordered tables).map (·.name)).Nodup :=
  ((arrangedTables .dependency tables).map _).nodup_iff.mpr distinct

theorem placeUnique {m n i : Nat} (left : (places tables)[m]? = some i)
    (right : (places tables)[n]? = some i) : m = n :=
  placedOnce (arrangedOnce tables) left right

theorem orderedSource {n : Nat} {table : Table} (found : (ordered tables)[n]? = some table) :
    ∃ i : Nat, (places tables)[n]? = some i ∧ tables[i]? = some table := by
  rw [orderedAt] at found
  exact Option.bind_eq_some_iff.mp found

theorem placeSorted {n i : Nat} (inside : n < (byDependency tables).sorted.length) :
    (places tables)[n]? = some i ↔ (byDependency tables).sorted[n]? = some i := by
  rw [places, List.getElem?_append_left inside]

theorem placeLeftover {n i : Nat} (beyond : (byDependency tables).sorted.length ≤ n)
    (found : (places tables)[n]? = some i) : i ∈ (byDependency tables).leftover := by
  rw [places, List.getElem?_append_right beyond] at found
  exact List.mem_of_getElem? found

theorem leftoverPlace {d : Nat} (member : d ∈ (byDependency tables).leftover) :
    ∃ m : Nat, (byDependency tables).sorted.length ≤ m ∧ (places tables)[m]? = some d := by
  obtain ⟨m, found⟩ := List.mem_iff_getElem?.mp member
  refine ⟨(byDependency tables).sorted.length + m, Nat.le_add_right _ _, ?_⟩
  rw [places, List.getElem?_append_right (Nat.le_add_right _ _), Nat.add_sub_cancel_left, found]

theorem sortedShort (tables : List Table) :
    (byDependency tables).sorted.length ≤ (ordered tables).length := by
  rw [orderedLength, ← placesLength, places, List.length_append]
  exact Nat.le_add_right _ _

theorem orderedParts (tables : List Table) : ordered tables =
    (byDependency tables).sorted.filterMap (tables[·]?) ++
      (byDependency tables).leftover.filterMap (tables[·]?) :=
  List.filterMap_append

theorem sortedTables (tables : List Table) :
    ((byDependency tables).sorted.filterMap (tables[·]?)).length =
      (byDependency tables).sorted.length := by
  have inside : ∀ i ∈ (byDependency tables).sorted, (tables[i]?).isSome :=
    fun i member => arrangedInside .dependency (List.mem_append_left _ member)
  simpa only [List.length_map] using congrArg List.length (filterMapSome inside)

end Scaffold.Migration
