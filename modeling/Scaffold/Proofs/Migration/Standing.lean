import Scaffold.Proofs.Migration.Rounds

/-!
Tables that stand in a creation order already. The search takes them as they stand, and it goes no
further where each of the other tables refers to another of these.
-/
namespace Scaffold.Migration

variable {tables : List Table}

/- Each round has one outcome, so of two runs the one that ends contains the other. -/
theorem roundsPrefix {order whole : List Nat} (rounds : Rounds tables order)
    (run : Rounds tables whole) (exhausted : ∀ i, ¬ Free tables whole i) : order <+: whole := by
  induction rounds with
  | start => exact List.nil_prefix
  | @take placed i _ free first ih =>
    obtain ⟨rest, split⟩ := ih
    cases rest with
    | nil =>
      rw [List.append_nil] at split
      exact absurd (split ▸ free) (exhausted i)
    | cons next rest =>
      have atNext : whole[placed.length]? = some next := by simp [← split]
      have before : whole.take placed.length = placed := by simp [← split]
      obtain ⟨nextFree, least⟩ := roundsAt run atNext
      rw [before] at nextFree least
      have same : next = i := by
        rcases Nat.lt_trichotomy next i with lower | equal | higher
        · exact absurd nextFree (first next lower)
        · exact equal
        · exact absurd free (least i higher)
      exact ⟨rest, by rw [← split, same, List.append_assoc, List.singleton_append]⟩

theorem roundsEnd {order : List Nat} (rounds : Rounds tables order)
    (exhausted : ∀ i, ¬ Free tables order i) : (byDependency tables).sorted = order := by
  have inside := roundsPrefix (byDependencyRounds tables) rounds exhausted
  have around := roundsPrefix rounds (byDependencyRounds tables) (noneFree tables)
  exact inside.eq_of_length_le around.length_le

theorem standingRounds {k : Nat} (inside : k ≤ tables.length)
    (met : ∀ i < k, ∀ d, Refers tables i d → d < i) : Rounds tables (List.range k) := by
  induction k with
  | zero => exact .start
  | succ k ih =>
    rw [List.range_succ]
    refine .take (ih (by omega) fun i lower => met i (by omega)) ⟨inside, by simp, ?_⟩ ?_
    · exact fun d refers => List.mem_range.mpr (met k (Nat.lt_succ_self k) d refers)
    · exact fun j lower free => free.waiting (List.mem_range.mpr lower)

theorem standing {k : Nat} (inside : k ≤ tables.length)
    (met : ∀ i < k, ∀ d, Refers tables i d → d < i)
    (held : ∀ i, k ≤ i → i < tables.length → ∃ d, k ≤ d ∧ Refers tables i d) :
    byDependency tables = ⟨List.range k, List.range' k (tables.length - k)⟩ := by
  have sorted : (byDependency tables).sorted = List.range k := by
    refine roundsEnd (standingRounds inside met) fun i free => ?_
    have outside : k ≤ i := by simpa using free.waiting
    obtain ⟨d, beyond, refers⟩ := held i outside free.inside
    exact Nat.not_lt.mpr beyond (List.mem_range.mp (free.met d refers))
  have leftover : (byDependency tables).leftover = List.range' k (tables.length - k) := by
    refine (leftoverAscends tables).eq_of_mem_iff List.pairwise_lt_range' fun i => ?_
    rw [leftoverUnsorted, sorted, List.mem_range, List.mem_range'_1]
    omega
  rw [← sorted, ← leftover]

end Scaffold.Migration
