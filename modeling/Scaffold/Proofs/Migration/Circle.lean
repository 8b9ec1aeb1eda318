import Mathlib.Data.List.Cycle
import Mathlib.Data.List.Sort
import Scaffold.Proofs.Migration.Rounds

/-!
Circles of references. A creation order leaves over exactly the tables from which references lead into a
circle, so every table is sorted if and only if there is no circle.
-/
namespace Scaffold.Migration

section Walks

variable {α : Type} {r : α → α → Prop} {a b x : α}

/- A walk that comes by its start again is cut down to what follows. -/
theorem walkOnce (walk : Relation.ReflTransGen r a b) :
    ∃ way, List.IsChain r (a :: way) ∧ (a :: way).Nodup ∧ (a :: way).getLast? = some b := by
  induction walk using Relation.ReflTransGen.head_induction_on with
  | refl => exact ⟨[], by simp⟩
  | @head a c step _ ih =>
    obtain ⟨way, linked, once, ends⟩ := ih
    by_cases again : a ∈ c :: way
    · obtain ⟨before, after, split⟩ := List.append_of_mem again
      rw [split] at linked once ends
      have closing : (a :: after).getLast? = some b := by simpa using ends
      exact ⟨after, linked.right_of_append, (List.nodup_append.mp once).2.1, closing⟩
    · exact ⟨c :: way, linked.cons_cons step, List.nodup_cons.mpr ⟨again, once⟩, by simpa using ends⟩

/-- Distinct places in a ring, at least one, and each related to the next. -/
structure Circle (r : α → α → Prop) (ring : Cycle α) : Prop where
  some : ring ≠ .nil
  once : ring.Nodup
  linked : ring.Chain r

theorem circleMember {ring : Cycle α} (circle : Circle r ring) : ∃ x, x ∈ ring := by
  induction ring using Cycle.induction_on with
  | nil => exact absurd rfl circle.some
  | cons a places => exact ⟨a, List.mem_cons_self⟩

theorem circleThroughIff : (∃ ring, Circle r ring ∧ x ∈ ring) ↔ Relation.TransGen r x x := by
  constructor
  · rintro ⟨ring, circle, member⟩
    have walks := circle.linked.imp fun _ _ => Relation.TransGen.single
    exact Cycle.chain_iff_pairwise.mp walks x member x member
  · intro walk
    obtain ⟨y, step, back⟩ := Relation.TransGen.head'_iff.mp walk
    obtain ⟨way, linked, once, ends⟩ := walkOnce back
    have closed : List.IsChain r ((y :: way) ++ [y]) := by
      refine linked.append (List.isChain_singleton y) fun last final first opening => ?_
      rw [ends] at final
      cases final
      cases opening
      exact step
    exact ⟨(y :: way : List α), ⟨by simp, once, closed⟩, List.mem_of_getLast? ends⟩

end Walks

def LeadsRound (tables : List Table) (i : Nat) : Prop :=
  ∃ x, Relation.ReflTransGen (Refers tables) i x ∧ ∃ ring, Circle (Refers tables) ring ∧ x ∈ ring

variable {tables : List Table} {i : Nat}

theorem leadsRoundInside (leads : LeadsRound tables i) : i < tables.length := by
  obtain ⟨x, walk, circle⟩ := leads
  have onward : Relation.TransGen (Refers tables) i x :=
    .trans_right walk (circleThroughIff.mp circle)
  obtain ⟨next, refers, -⟩ := Relation.TransGen.head'_iff.mp onward
  exact (refersBound refers).1

theorem leftoverIff : i ∈ (byDependency tables).leftover ↔ LeadsRound tables i := by
  rw [memLeftoverIff]
  simp only [← circleThroughIff]
  exact and_iff_right_of_imp leadsRoundInside

theorem noneLeftoverIff :
    (byDependency tables).leftover = [] ↔ ∀ ring, ¬ Circle (Refers tables) ring := by
  rw [List.eq_nil_iff_forall_not_mem]
  simp only [leftoverIff]
  constructor
  · intro none ring circle
    obtain ⟨x, member⟩ := circleMember circle
    exact none x ⟨x, .refl, ring, circle, member⟩
  · rintro circleFree i ⟨x, -, ring, circle, -⟩
    exact circleFree ring circle

open Classical in
theorem leftoverPositions (tables : List Table) :
    (byDependency tables).leftover = (List.range tables.length).filter (LeadsRound tables) := by
  have ascending : ((List.range tables.length).filter (LeadsRound tables)).Pairwise (· < ·) :=
    List.pairwise_lt_range.sublist List.filter_sublist
  refine (leftoverAscends tables).eq_of_mem_iff ascending fun i => ?_
  rw [leftoverIff, List.mem_filter, List.mem_range, decide_eq_true_iff]
  exact (and_iff_right_of_imp leadsRoundInside).symm

/- The names stand where their tables do. -/
theorem positionNames (p : Nat → Bool) (tables : List Table) :
    (tables.zipIdx.filter fun (_, i) => p i).map (fun (table, _) => some table.name) =
      ((List.range tables.length).filter p).map fun i => (tables[i]?).map (·.name) := by
  have positions : List.range tables.length = tables.zipIdx.map Prod.snd := by
    rw [List.zipIdx_map_snd, List.range_eq_range']
  rw [positions, List.filter_map, List.map_map]
  refine List.map_congr_left fun entry member => ?_
  have found := List.mem_zipIdx_iff_getElem?.mp (List.mem_filter.mp member).1
  simp [found]

open Classical in
theorem cycleNames (tables : List Table) :
    (byDependency tables).cycle tables =
      (tables.zipIdx.filter fun (_, i) => LeadsRound tables i).map fun (table, _) => table.name := by
  refine List.map_injective_iff.mpr (Option.some_injective String) ?_
  rw [cycleNamed, leftoverPositions, List.map_map]
  exact (positionNames (fun i => decide (LeadsRound tables i)) tables).symm

open Classical in
theorem reportedLeadRound (tables : List Table) :
    (∀ i, i ∈ (byDependency tables).leftover ↔ LeadsRound tables i) ∧
      (byDependency tables).cycle tables =
        (tables.zipIdx.filter fun (_, i) => LeadsRound tables i).map (fun (table, _) => table.name) ∧
      ((byDependency tables).cycle tables = [] ↔ ∀ ring, ¬ Circle (Refers tables) ring) :=
  ⟨fun _ => leftoverIff, cycleNames tables, (cycleNone tables).trans noneLeftoverIff⟩

end Scaffold.Migration
