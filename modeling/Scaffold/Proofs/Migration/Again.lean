import Scaffold.Proofs.Migration.Places
import Scaffold.Proofs.Migration.Standing

/-!
Tables that have been ordered once. The references between them are those of the declaration under their
new positions, so a second search takes every table as it stands.
-/
namespace Scaffold.Migration

variable {tables : List Table}

theorem refersOrdered (distinct : (tables.map (·.name)).Nodup) {m n : Nat} :
    Refers (ordered tables) n m ↔ ∃ i d : Nat, (places tables)[n]? = some i ∧
      (places tables)[m]? = some d ∧ Refers tables i d := by
  rw [refersByName (orderedDistinct distinct)]
  constructor
  · rintro ⟨table, other, found, atOther, target, apart⟩
    obtain ⟨i, atPlace, declared⟩ := orderedSource found
    obtain ⟨d, atTarget, known⟩ := orderedSource atOther
    refine ⟨i, d, atPlace, atTarget, (refersByName distinct).mpr ?_⟩
    refine ⟨table, other, declared, known, target, ?_⟩
    rintro rfl
    exact apart (placeUnique atTarget atPlace)
  · rintro ⟨i, d, atPlace, atTarget, refers⟩
    obtain ⟨table, other, declared, known, target, apart⟩ := (refersByName distinct).mp refers
    refine ⟨table, other, ?_, ?_, target, ?_⟩
    · rw [orderedAt, atPlace, Option.bind_some, declared]
    · rw [orderedAt, atTarget, Option.bind_some, known]
    · rintro rfl
      exact apart (Option.some.inj (atTarget.symm.trans atPlace))

/- The sorted tables refer to earlier ones, and each of the others refers to another of these. -/
theorem arrangedAgain (distinct : (tables.map (·.name)).Nodup) :
    byDependency (ordered tables) = ⟨List.range (byDependency tables).sorted.length,
      List.range' (byDependency tables).sorted.length
        ((ordered tables).length - (byDependency tables).sorted.length)⟩ := by
  refine standing (sortedShort tables) (fun n inside m refers => ?_) fun n beyond inside => ?_
  · obtain ⟨i, d, atPlace, atTarget, declared⟩ := (refersOrdered distinct).mp refers
    obtain ⟨l, before, sorted⟩ := sortedBefore ((placeSorted inside).mp atPlace) declared
    have same := placeUnique ((placeSorted (by omega)).mpr sorted) atTarget
    omega
  · rw [orderedLength, ← placesLength] at inside
    have atPlace := List.getElem?_eq_getElem inside
    obtain ⟨d, member, declared⟩ := leftoverLeads (placeLeftover beyond atPlace)
    obtain ⟨m, later, atTarget⟩ := leftoverPlace member
    exact ⟨m, later, (refersOrdered distinct).mpr ⟨_, d, atPlace, atTarget, declared⟩⟩

theorem orderedStands (distinct : (tables.map (·.name)).Nodup) :
    ordered (ordered tables) = ordered tables := by
  have whole := List.range'_append_1 (s := 0) (m := (byDependency tables).sorted.length)
    (n := (ordered tables).length - (byDependency tables).sorted.length)
  rw [Nat.zero_add, Nat.add_sub_cancel' (sortedShort tables), ← List.range_eq_range',
    ← List.range_eq_range'] at whole
  rw [ordered, arrangedAgain distinct, Arrangement.tables, whole]
  exact tablesInOrder (ordered tables)

/- Both runs sort equally many tables, so what they leave over is cut off at the same place. -/
theorem reportedStands (distinct : (tables.map (·.name)).Nodup) :
    reported (ordered tables) = reported tables := by
  have parts := (orderedParts (ordered tables)).symm.trans
    ((orderedStands distinct).trans (orderedParts tables))
  have short : (byDependency (ordered tables)).sorted.length =
      (byDependency tables).sorted.length := by rw [arrangedAgain distinct, List.length_range]
  have left := (List.append_inj parts (by rw [sortedTables, sortedTables, short])).2
  exact congrArg (List.map (·.name)) left

theorem orderedAgain (distinct : (tables.map (·.name)).Nodup) :
    ordered (ordered tables) = ordered tables ∧ reported (ordered tables) = reported tables :=
  ⟨orderedStands distinct, reportedStands distinct⟩

/- A circle, a table that leads into it and one that stands apart, declared against the order. -/
def school : List Table := [
  ⟨"Grade", [], [⟨"Pupil", .manyToOne⟩]⟩,
  ⟨"Pupil", [], [⟨"Class", .manyToOne⟩, ⟨"Pupil", .manyToOne⟩]⟩,
  ⟨"Class", [], [⟨"Pupil", .manyToOne⟩, ⟨"Room", .manyToOne⟩]⟩,
  ⟨"Room", [], []⟩]

theorem schoolOrderedAgain : (school.map (·.name)).Nodup ∧
    (ordered school).map (·.name) = ["Room", "Grade", "Pupil", "Class"] ∧
    reported school = ["Grade", "Pupil", "Class"] ∧
    ordered (ordered school) = ordered school ∧ reported (ordered school) = reported school := by
  have distinct : (school.map (·.name)).Nodup := by decide
  exact ⟨distinct, by decide +kernel, by decide +kernel, orderedAgain distinct⟩

end Scaffold.Migration
