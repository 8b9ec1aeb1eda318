import Scaffold.Proofs.Migration.Circle
import Scaffold.Proofs.Migration.Places

/-!
Tables that a circle keeps from being sorted. Besides those on a circle these are the tables from which
references lead to one, and a reference to such a table counts for nothing: the declared order decides.
-/
namespace Scaffold.Migration

variable {tables : List Table} {i d : Nat}

def OnCircle (tables : List Table) (i : Nat) : Prop :=
  ∃ ring, Circle (Refers tables) ring ∧ 2 ≤ ring.length ∧ i ∈ ring

theorem refersOther : ¬ Refers tables i i :=
  fun ⟨_, _, _, _, other⟩ => other rfl

theorem circleOfTwo {ring : Cycle Nat} (circle : Circle (Refers tables) ring) : 2 ≤ ring.length := by
  induction ring using Cycle.induction_on with
  | nil => exact absurd rfl circle.some
  | cons a places =>
    cases places with
    | nil => exact absurd ((Cycle.chain_singleton _ a).mp circle.linked) refersOther
    | cons b rest => simp

theorem leadsRoundIff :
    LeadsRound tables i ↔ ∃ x, Relation.ReflTransGen (Refers tables) i x ∧ OnCircle tables x := by
  constructor
  · rintro ⟨x, walk, ring, circle, member⟩
    exact ⟨x, walk, ring, circle, circleOfTwo circle, member⟩
  · rintro ⟨x, walk, ring, circle, -, member⟩
    exact ⟨x, walk, ring, circle, member⟩

theorem leadsRoundBack (refers : Refers tables i d) (leads : LeadsRound tables d) :
    LeadsRound tables i := by
  obtain ⟨x, walk, circle⟩ := leads
  exact ⟨x, walk.head refers, circle⟩

theorem onCircleBack {x : Nat}
    (closed : ∀ i d, Refers tables i d → OnCircle tables d → OnCircle tables i)
    (walk : Relation.ReflTransGen (Refers tables) i x) (round : OnCircle tables x) :
    OnCircle tables i := by
  induction walk using Relation.ReflTransGen.head_induction_on with
  | refl => exact round
  | head refers _ ih => exact closed _ _ refers ih

theorem sameTable (distinct : (tables.map (·.name)).Nodup) {left right : Table}
    (found : tables[i]? = some left) (known : tables[d]? = some right)
    (same : left.name = right.name) : i = d :=
  lastBearerUnique (bearerOfDistinct distinct found) (same ▸ bearerOfDistinct distinct known)

theorem memReported {name : String} : name ∈ reported tables ↔
    ∃ (i : Nat) (table : Table), tables[i]? = some table ∧ table.name = name ∧ LeadsRound tables i := by
  simp only [reported, Arrangement.cycle, List.mem_map, List.mem_filterMap, leftoverIff]
  constructor
  · rintro ⟨table, ⟨i, leads, found⟩, named⟩
    exact ⟨i, table, found, named, leads⟩
  · rintro ⟨i, table, found, named, leads⟩
    exact ⟨table, ⟨i, leads, found⟩, named⟩

theorem reportedTable (distinct : (tables.map (·.name)).Nodup) {table : Table}
    (found : tables[i]? = some table) : table.name ∈ reported tables ↔ LeadsRound tables i := by
  rw [memReported]
  constructor
  · rintro ⟨j, other, known, same, leads⟩
    rwa [sameTable distinct found known same.symm]
  · exact fun leads => ⟨i, table, found, rfl, leads⟩

theorem reportedOnCircle (distinct : (tables.map (·.name)).Nodup) :
    (∀ name ∈ reported tables, ∃ (i : Nat) (table : Table), tables[i]? = some table ∧
        table.name = name ∧ OnCircle tables i) ↔
      ∀ i d, Refers tables i d → OnCircle tables d → OnCircle tables i := by
  constructor
  · intro all i d refers round
    obtain ⟨table, _, found, _, _, _⟩ := (refersByName distinct).mp refers
    have leads := leadsRoundIff.mpr ⟨d, .single refers, round⟩
    obtain ⟨j, other, known, same, circle⟩ := all _ ((reportedTable distinct found).mpr leads)
    rwa [sameTable distinct found known same.symm]
  · intro closed name told
    obtain ⟨i, table, found, named, leads⟩ := memReported.mp told
    obtain ⟨x, walk, round⟩ := leadsRoundIff.mp leads
    exact ⟨i, table, found, named, onCircleBack closed walk round⟩

theorem leftoverInOrder (left : i ∈ (byDependency tables).leftover)
    (right : d ∈ (byDependency tables).leftover) :
    (byDependency tables).leftover.idxOf d < (byDependency tables).leftover.idxOf i ↔ d < i := by
  have inside := List.idxOf_lt_length_iff.mpr left
  have within := List.idxOf_lt_length_iff.mpr right
  have compared : (byDependency tables).leftover[(byDependency tables).leftover.idxOf d] <
      (byDependency tables).leftover[(byDependency tables).leftover.idxOf i] ↔ _ :=
    (List.sortedLT_iff_pairwise.mpr (leftoverAscends tables)).getElem_lt_getElem_iff
  rw [← compared, List.getElem_idxOf, List.getElem_idxOf]

theorem sortedInOrder (refers : Refers tables i d) (member : i ∈ (byDependency tables).sorted) :
    (byDependency tables).sorted.idxOf d < (byDependency tables).sorted.idxOf i := by
  obtain ⟨m, before, found⟩ := sortedBefore (List.getElem?_idxOf member) refers
  have place := placedOnce (sortedOnce tables) found
    (List.getElem?_idxOf (List.mem_of_getElem? found))
  rwa [← place]

/- A table from which references lead into a circle is left over, and so is every table that refers to it. -/
theorem placedBefore (refers : Refers tables i d) :
    (places tables).idxOf d < (places tables).idxOf i ↔ (LeadsRound tables d → d < i) := by
  have apart : ∀ {j}, j ∈ (byDependency tables).leftover → j ∉ (byDependency tables).sorted :=
    fun left => (leftoverUnsorted.mp left).2
  rw [places]
  by_cases leads : LeadsRound tables d
  · have right := leftoverIff.mpr leads
    have left := leftoverIff.mpr (leadsRoundBack refers leads)
    rw [List.idxOf_append_of_notMem (apart right), List.idxOf_append_of_notMem (apart left),
      Nat.add_lt_add_iff_left, leftoverInOrder left right]
    exact (imp_iff_right leads).symm
  · have placed : d ∈ (byDependency tables).sorted :=
      (memArranged.mpr (refersBound refers).2).resolve_right (leads ∘ leftoverIff.mp)
    refine iff_of_true ?_ fun round => absurd round leads
    rw [List.idxOf_append_of_mem placed]
    rcases memArranged.mpr (refersBound refers).1 with sorted | left
    · rw [List.idxOf_append_of_mem sorted]
      exact sortedInOrder refers sorted
    · rw [List.idxOf_append_of_notMem (apart left)]
      exact Nat.lt_add_right _ (List.idxOf_lt_length_iff.mpr placed)

theorem heldBack (distinct : (tables.map (·.name)).Nodup) :
    (∀ i table, tables[i]? = some table → (table.name ∈ reported tables ↔ LeadsRound tables i)) ∧
      ((∀ name ∈ reported tables, ∃ (i : Nat) (table : Table), tables[i]? = some table ∧
          table.name = name ∧ OnCircle tables i) ↔
        ∀ i d, Refers tables i d → OnCircle tables d → OnCircle tables i) ∧
      ∀ i d, Refers tables i d →
        ((places tables).idxOf d < (places tables).idxOf i ↔ (LeadsRound tables d → d < i)) :=
  ⟨fun _ _ => reportedTable distinct, reportedOnCircle distinct, fun _ _ => placedBefore⟩

/- A circle of two tables, and a table that refers to one of them and stands first. -/
def ward : List Table := [
  ⟨"Visit", [], [⟨"Doctor", .manyToOne⟩]⟩,
  ⟨"Doctor", [], [⟨"Ward", .manyToOne⟩]⟩,
  ⟨"Ward", [], [⟨"Doctor", .manyToOne⟩]⟩]

theorem visitOffCircle : ¬ OnCircle ward 0 := by
  rintro ⟨ring, circle, -, member⟩
  obtain ⟨j, -, refers⟩ := Relation.TransGen.tail'_iff.mp (circleThroughIff.mp ⟨ring, circle, member⟩)
  have unmet : ∀ j < ward.length, 0 ∉ needs ward j := by decide +kernel
  exact unmet j (refersBound refers).1 (memNeeds.mpr refers)

theorem wardHeld : (ward.map (·.name)).Nodup ∧ LeadsRound ward 0 ∧ LeadsRound ward 1 ∧
    ¬ (∀ i d, Refers ward i d → OnCircle ward d → OnCircle ward i) := by
  have distinct : (ward.map (·.name)).Nodup := by decide
  obtain ⟨told, closed, -⟩ := heldBack distinct
  have visit : "Visit" ∈ reported ward := by decide +kernel
  refine ⟨distinct, (told 0 _ rfl).mp visit, (told 1 _ rfl).mp (by decide +kernel), fun all => ?_⟩
  obtain ⟨i, table, found, named, round⟩ := closed.mpr all _ visit
  have first : i = 0 := sameTable distinct found rfl named
  exact visitOffCircle (first ▸ round)

theorem visitHeldBack : (ward.map (·.name)).Nodup ∧ "Visit" ∈ reported ward ∧
    (∀ i table, ward[i]? = some table → table.name = "Visit" → ¬ OnCircle ward i) ∧
    Refers ward 0 1 ∧ (places ward).idxOf 0 < (places ward).idxOf 1 := by
  have distinct : (ward.map (·.name)).Nodup := by decide
  refine ⟨distinct, by decide +kernel, fun i table found named => ?_, memNeeds.mp (by decide +kernel),
    by decide +kernel⟩
  have first : i = 0 := sameTable distinct found rfl named
  exact first ▸ visitOffCircle

end Scaffold.Migration
