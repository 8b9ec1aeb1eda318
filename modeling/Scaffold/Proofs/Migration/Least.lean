import Mathlib.Data.List.Lex
import Scaffold.Proofs.Migration.Places
import Scaffold.Proofs.Migration.Standing

/-!
The creation order among all others. Of the orders that put every sorted table behind all that it refers
to, the search arrives at the lexicographically least, so tables that are in order already stay as they are.
-/
namespace Scaffold.Migration

variable {tables : List Table} {order : List Nat} {i : Nat}

/-- The given positions in another order, each behind all that it refers to. -/
structure Admits (tables : List Table) (given order : List Nat) : Prop where
  same : order.Perm given
  earlier : ∀ (n i d : Nat), order[n]? = some i → Refers tables i d →
    ∃ m : Nat, m < n ∧ order[m]? = some d

theorem memTake {α : Type} {as : List α} {n : Nat} {a : α} :
    a ∈ as.take n ↔ ∃ m : Nat, m < n ∧ as[m]? = some a := by
  simp [List.mem_iff_getElem?, List.getElem?_take]

theorem sortedAdmits (tables : List Table) :
    Admits tables (byDependency tables).sorted (byDependency tables).sorted :=
  ⟨.refl _, fun _ _ _ => sortedBefore⟩

theorem admitsFree (admits : Admits tables (byDependency tables).sorted order) {n : Nat}
    (found : order[n]? = some i) : Free tables (order.take n) i := by
  have once : order.Nodup := admits.same.nodup_iff.mpr (sortedOnce tables)
  have member := admits.same.mem_iff.mp (List.mem_of_getElem? found)
  refine ⟨memArranged.mp (.inl member), fun early => ?_, fun d refers => ?_⟩
  · obtain ⟨m, before, atSame⟩ := memTake.mp early
    exact Nat.ne_of_lt before (placedOnce once atSame found)
  · exact memTake.mpr (admits.earlier n i d found refers)

/- Up to the first difference both orders have placed the same positions. What the other one takes there
is free, and the search takes the least position that is free. -/
theorem sortedLeast (admits : Admits tables (byDependency tables).sorted order) :
    (byDependency tables).sorted ≤ order := by
  refine not_lt.mp fun smaller => ?_
  rcases List.lt_iff_exists.mp smaller with ⟨_, shorter⟩ | ⟨n, left, right, agree, lower⟩
  · exact Nat.ne_of_lt shorter admits.same.length_eq
  · have placed : order.take n = (byDependency tables).sorted.take n :=
      List.ext_getElem (by simp; omega) fun m inside _ => by
        simpa using agree m (by simp at inside; omega)
    have free := admitsFree admits (List.getElem?_eq_getElem left)
    obtain ⟨-, least⟩ := roundsAt (byDependencyRounds tables) (List.getElem?_eq_getElem right)
    exact least _ lower (placed ▸ free)

theorem inOrderIff (tables : List Table) : byDependency tables = ⟨List.range tables.length, []⟩ ↔
    ∀ i d, Refers tables i d → d < i := by
  constructor
  · intro same i d refers
    have sorted : (byDependency tables).sorted = List.range tables.length := by rw [same]
    have inside := (refersBound refers).1
    have found : (byDependency tables).sorted[i]? = some i := by
      rw [sorted, List.getElem?_range inside]
    obtain ⟨m, before, atTarget⟩ := sortedBefore found refers
    rw [sorted, List.getElem?_range (Nat.lt_trans before inside)] at atTarget
    cases atTarget
    exact before
  · intro met
    simpa using standing (Nat.le_refl _) (fun i _ => met i) fun i beyond inside => by omega

theorem declaredTables (tables : List Table) :
    (⟨List.range tables.length, []⟩ : Arrangement).tables tables = tables := by
  rw [Arrangement.tables, List.append_nil]
  exact tablesInOrder tables

theorem arrangedLeast (tables : List Table) :
    IsLeast {order | Admits tables (byDependency tables).sorted order} (byDependency tables).sorted ∧
      (byDependency tables = ⟨List.range tables.length, []⟩ ↔ ∀ i d, Refers tables i d → d < i) ∧
      ((∀ i d, Refers tables i d → d < i) → ordered tables = tables ∧ reported tables = []) := by
  refine ⟨⟨sortedAdmits tables, fun _ => sortedLeast⟩, inOrderIff tables, fun met => ?_⟩
  rw [ordered, reported, (inOrderIff tables).mpr met]
  exact ⟨declaredTables tables, rfl⟩

/- A table that refers to itself and to a name that no table bears, and a reference that points back. -/
def library : List Table := [
  ⟨"Genre", [], []⟩,
  ⟨"Author", [], [⟨"Author", .manyToOne⟩, ⟨"Ghost", .manyToOne⟩, ⟨"Book", .oneToMany⟩]⟩,
  ⟨"Book", [], [⟨"Author", .manyToOne⟩, ⟨"Genre", .manyToOne⟩]⟩]

theorem libraryUnchanged : (∀ i d, Refers library i d → d < i) ∧ Refers library 2 1 ∧
    ordered library = library ∧ reported library = [] := by
  have back : ∀ i < library.length, ∀ d ∈ needs library i, d < i := by decide +kernel
  have met : ∀ i d, Refers library i d → d < i :=
    fun i d refers => back i (refersBound refers).1 d (memNeeds.mpr refers)
  exact ⟨met, memNeeds.mp (by decide +kernel), (arrangedLeast library).2.2 met⟩

end Scaffold.Migration
