import Mathlib.Data.List.Induction
import Mathlib.Data.List.Nodup

/-!
Names listed once: what is left of a list when each name keeps only its first place.
-/
namespace Scaffold.Text

structure Firsts (names kept : List String) : Prop where
  once : kept.Nodup
  each : ∀ name, name ∈ kept ↔ name ∈ names
  order : kept.Pairwise fun before after => names.idxOf before < names.idxOf after

theorem eraseDupsConcat (names : List String) (name : String) :
    (names ++ [name]).eraseDups =
      if name ∈ names then names.eraseDups else names.eraseDups ++ [name] := by
  rw [List.eraseDups_append]
  by_cases known : name ∈ names <;> simp [List.removeAll, known, List.eraseDups_cons]

theorem eraseDupsOnce (names : List String) : names.eraseDups.Nodup := by
  induction names using List.reverseRecOn with
  | nil => exact List.nodup_nil
  | append_singleton names name ih =>
    rw [eraseDupsConcat]
    split
    · exact ih
    · next fresh =>
      rw [← List.concat_eq_append]
      exact List.Nodup.concat (mt List.mem_eraseDups.mp fresh) ih

/- A name that comes last leaves the first places of the names before it where they are. -/
theorem eraseDupsOrder (names : List String) : names.eraseDups.Pairwise
    fun before after => names.idxOf before < names.idxOf after := by
  induction names using List.reverseRecOn with
  | nil => exact .nil
  | append_singleton names name ih =>
    have kept : names.eraseDups.Pairwise fun before after =>
        (names ++ [name]).idxOf before < (names ++ [name]).idxOf after := by
      refine ih.imp_of_mem fun left right less => ?_
      rwa [List.idxOf_append_of_mem (List.mem_eraseDups.mp left),
        List.idxOf_append_of_mem (List.mem_eraseDups.mp right)]
    rw [eraseDupsConcat]
    split
    · exact kept
    · next fresh =>
      refine List.pairwise_append.mpr ⟨kept, List.pairwise_singleton _ _, fun old member new added => ?_⟩
      have known := List.mem_eraseDups.mp member
      rw [List.mem_singleton.mp added, List.idxOf_append_of_mem known,
        List.idxOf_append_of_notMem fresh]
      exact Nat.lt_add_right _ (List.idxOf_lt_length_iff.mpr known)

theorem eraseDupsFirsts (names : List String) : Firsts names names.eraseDups :=
  ⟨eraseDupsOnce names, fun _ => List.mem_eraseDups, eraseDupsOrder names⟩

end Scaffold.Text
