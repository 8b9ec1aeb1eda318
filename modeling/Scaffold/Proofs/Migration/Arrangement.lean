import Mathlib.Data.Set.Finite.List
import Mathlib.Logic.Relation
import Mathlib.Order.WellFounded
import Scaffold.Proofs.Migration.Reference

/-!
What the search for a creation order arrives at: every position once, the sorted ones each behind all
that it needs, and left over exactly those from which references lead into a circle.
-/
namespace Scaffold.Migration

inductive NeedsFirst (needs : Nat → List Nat) : List Nat → Prop where
  | nil : NeedsFirst needs []
  | snoc {order i} (earlier : NeedsFirst needs order) (met : ∀ d ∈ needs i, d ∈ order) :
      NeedsFirst needs (order ++ [i])

theorem atConcat {α : Type} {as : List α} {last a : α} {n : Nat} :
    (as ++ [last])[n]? = some a ↔ as[n]? = some a ∨ n = as.length ∧ last = a := by
  rcases Nat.lt_trichotomy n as.length with inside | rfl | beyond
  · rw [List.getElem?_append_left inside]
    simp [Nat.ne_of_lt inside]
  · simp
  · rw [List.getElem?_eq_none (by simp; omega), List.getElem?_eq_none (by omega)]
    simp [Nat.ne_of_gt beyond]

theorem needsFirstAt {needs order} (h : NeedsFirst needs order) {n i d : Nat}
    (found : order[n]? = some i) (need : d ∈ needs i) : ∃ m, m < n ∧ order[m]? = some d := by
  induction h generalizing n with
  | nil => simp at found
  | @snoc order last earlier met ih =>
    rcases atConcat.mp found with early | ⟨rfl, rfl⟩
    · obtain ⟨m, before, atNeed⟩ := ih early
      exact ⟨m, before, atConcat.mpr (.inl atNeed)⟩
    · obtain ⟨m, atNeed⟩ := List.mem_iff_getElem?.mp (met d need)
      exact ⟨m, (List.getElem?_eq_some_iff.mp atNeed).1, atConcat.mpr (.inl atNeed)⟩

/- What holds each time the search looks for the next position. -/
structure Placing (needs : Nat → List Nat) (positions placed waiting : List Nat) : Prop where
  all : (placed ++ waiting).Perm positions
  declared : waiting.Sublist positions
  ordered : NeedsFirst needs placed

/- What holds once no waiting position can be taken. -/
structure Settled (needs : Nat → List Nat) (positions : List Nat) (result : Arrangement) : Prop
    extends Placing needs positions result.sorted result.leftover where
  blocked : ∀ i ∈ result.leftover, ∃ d ∈ needs i, d ∉ result.sorted

theorem placingStep {needs positions placed waiting i}
    (valid : Placing needs positions placed waiting)
    (found : waiting.find? (fun i => (needs i).all placed.contains) = some i) :
    Placing needs positions (placed ++ [i]) (waiting.erase i) := by
  have member := List.mem_of_find?_eq_some found
  have ready : ∀ d ∈ needs i, d ∈ placed := by simpa using List.find?_some found
  refine ⟨?_, List.erase_sublist.trans valid.declared, .snoc valid.ordered ready⟩
  rw [List.append_assoc]
  exact ((List.perm_cons_erase member).symm.append_left placed).trans valid.all

theorem placeSettles {needs positions placed waiting}
    (valid : Placing needs positions placed waiting) :
    Settled needs positions (place needs placed waiting) := by
  fun_induction place needs placed waiting with
  | case1 placed waiting i found ih => exact ih (placingStep valid found)
  | case2 placed waiting none =>
    refine ⟨valid, fun i member => ?_⟩
    have stuck := List.find?_eq_none.mp none i member
    simpa using stuck

theorem byDependencySettles (tables : List Table) :
    Settled (needs tables) (List.range tables.length) (byDependency tables) := by
  rw [byDependencyPlaces]
  exact placeSettles ⟨by simp, List.Sublist.refl _, .nil⟩

theorem arrangedOnce (tables : List Table) :
    ((byDependency tables).sorted ++ (byDependency tables).leftover).Nodup :=
  (byDependencySettles tables).all.nodup_iff.mpr List.nodup_range

theorem sortedOnce (tables : List Table) : (byDependency tables).sorted.Nodup :=
  (List.nodup_append.mp (arrangedOnce tables)).1

theorem leftoverAscends (tables : List Table) : (byDependency tables).leftover.Pairwise (· < ·) :=
  List.pairwise_lt_range.sublist (byDependencySettles tables).declared

theorem memArranged {tables i} :
    i ∈ (byDependency tables).sorted ∨ i ∈ (byDependency tables).leftover ↔ i < tables.length := by
  rw [← List.mem_append, (byDependencySettles tables).all.mem_iff, List.mem_range]

theorem sortedBefore {tables : List Table} {n i d : Nat} (found : (byDependency tables).sorted[n]? = some i)
    (refers : Refers tables i d) : ∃ m : Nat, m < n ∧ (byDependency tables).sorted[m]? = some d :=
  needsFirstAt (byDependencySettles tables).ordered found (memNeeds.mpr refers)

theorem leftoverLeads {tables i} (member : i ∈ (byDependency tables).leftover) :
    ∃ d ∈ (byDependency tables).leftover, Refers tables i d := by
  obtain ⟨d, need, absent⟩ := (byDependencySettles tables).blocked i member
  have refers := memNeeds.mp need
  exact ⟨d, (memArranged.mpr (refersBound refers).2).resolve_left absent, refers⟩

/- A reference from a sorted position leads to an earlier sorted one, so a walk from it descends and
never comes back. -/
theorem sortedDescends {tables i d} (member : i ∈ (byDependency tables).sorted)
    (walk : Relation.TransGen (Refers tables) i d) :
    ∃ m n : Nat, m < n ∧ (byDependency tables).sorted[m]? = some d ∧
      (byDependency tables).sorted[n]? = some i := by
  obtain ⟨n, found⟩ := List.mem_iff_getElem?.mp member
  induction walk with
  | single refers =>
    obtain ⟨m, before, atNeed⟩ := sortedBefore found refers
    exact ⟨m, n, before, atNeed, found⟩
  | tail _ refers ih =>
    obtain ⟨m, n, before, atMiddle, atStart⟩ := ih
    obtain ⟨l, lower, atNeed⟩ := sortedBefore atMiddle refers
    exact ⟨l, n, by omega, atNeed, atStart⟩

theorem sortedOffCircle {tables i} (member : i ∈ (byDependency tables).sorted) :
    ¬ Relation.TransGen (Refers tables) i i := by
  intro circle
  obtain ⟨m, n, before, left, right⟩ := sortedDescends member circle
  exact Nat.ne_of_lt before (placedOnce (sortedOnce tables) left right)

theorem walkMeetsCircle {α : Type} {r : α → α → Prop} (places : List α)
    (onward : ∀ x ∈ places, ∃ y ∈ places, r x y) {start : α} (member : start ∈ places) :
    ∃ x, Relation.ReflTransGen r start x ∧ Relation.TransGen r x x := by
  by_contra circleFree
  push Not at circleFree
  let Reached := { x // x ∈ places ∧ Relation.ReflTransGen r start x }
  have finite : Finite Reached :=
    Set.Finite.subset (List.finite_toSet places) (fun _ reached => reached.1)
  let beyond (a b : Reached) : Prop := Relation.TransGen r b.val a.val
  have irreflexive : Std.Irrefl beyond := ⟨fun a circle => circleFree a.val a.property.2 circle⟩
  have transitive : IsTrans Reached beyond := ⟨fun _ _ _ first second => second.trans first⟩
  have grounded : WellFounded beyond := Finite.wellFounded_of_trans_of_irrefl beyond
  obtain ⟨last, -, farthest⟩ := grounded.has_min Set.univ ⟨⟨start, member, .refl⟩, trivial⟩
  obtain ⟨next, inside, step⟩ := onward last.val last.property.1
  exact farthest ⟨next, inside, last.property.2.tail step⟩ trivial (.single step)

theorem memLeftoverIff {tables i} :
    i ∈ (byDependency tables).leftover ↔ i < tables.length ∧
      ∃ x, Relation.ReflTransGen (Refers tables) i x ∧ Relation.TransGen (Refers tables) x x := by
  constructor
  · intro member
    exact ⟨memArranged.mp (.inr member), walkMeetsCircle _ (fun _ => leftoverLeads) member⟩
  · rintro ⟨inside, x, walk, circle⟩
    refine (memArranged.mpr inside).resolve_left fun sorted => ?_
    rcases Relation.reflTransGen_iff_eq_or_transGen.mp walk with equal | proper
    · subst x
      exact sortedOffCircle sorted circle
    · obtain ⟨m, _, _, atCircle, _⟩ := sortedDescends sorted proper
      exact sortedOffCircle (List.mem_of_getElem? atCircle) circle

theorem leftoverEmptyIff {tables} :
    (byDependency tables).leftover = [] ↔ ∀ i, ¬ Relation.TransGen (Refers tables) i i := by
  rw [List.eq_nil_iff_forall_not_mem]
  constructor
  · intro none i circle
    obtain ⟨_, refers, _⟩ := Relation.TransGen.head'_iff.mp circle
    exact none i (memLeftoverIff.mpr ⟨(refersBound refers).1, i, .refl, circle⟩)
  · intro circleFree i member
    obtain ⟨_, x, _, circle⟩ := memLeftoverIff.mp member
    exact circleFree x circle

theorem cycleNone (tables : List Table) :
    (byDependency tables).cycle tables = [] ↔ (byDependency tables).leftover = [] := by
  rw [Arrangement.cycle, List.map_eq_nil_iff, List.filterMap_eq_nil_iff]
  constructor
  · intro unknown
    refine List.eq_nil_iff_forall_not_mem.mpr fun i member => ?_
    have inside := memArranged.mp (.inr member)
    have outside := List.getElem?_eq_none_iff.mp (unknown i member)
    omega
  · intro none
    simp [none]

theorem filterMapAt {α β : Type} {f : α → Option β} {as : List α} (total : ∀ a ∈ as, (f a).isSome)
    (n : Nat) : (as.filterMap f)[n]? = as[n]?.bind f := by
  induction as generalizing n with
  | nil => simp
  | cons a as ih =>
    obtain ⟨b, found⟩ := Option.isSome_iff_exists.mp (total a List.mem_cons_self)
    rw [List.filterMap_cons_some found]
    cases n with
    | zero => simp [found]
    | succ n => simpa using ih (fun a member => total a (List.mem_cons_of_mem _ member)) n

theorem tablesInOrder (tables : List Table) :
    (List.range tables.length).filterMap (tables[·]?) = tables := by
  refine List.ext_getElem? fun n => ?_
  rw [filterMapAt fun i member => by simpa using member]
  by_cases inside : n < tables.length
  · rw [List.getElem?_range inside, Option.bind_some]
  · rw [List.getElem?_eq_none (by simpa using inside), List.getElem?_eq_none (by omega)]
    rfl

theorem arrangedPositions (order : Order) (tables : List Table) :
    ((arrange order tables).sorted ++ (arrange order tables).leftover).Perm
      (List.range tables.length) := by
  cases order with
  | declared => simp [arrange]
  | dependency => exact (byDependencySettles tables).all

theorem arrangedTables (order : Order) (tables : List Table) :
    ((arrange order tables).tables tables).Perm tables := by
  have perm := (arrangedPositions order tables).filterMap (tables[·]?)
  rwa [tablesInOrder] at perm

theorem arrangedTableAt (order : Order) (tables : List Table) (n : Nat) :
    ((arrange order tables).tables tables)[n]? =
      ((arrange order tables).sorted ++ (arrange order tables).leftover)[n]?.bind (tables[·]?) := by
  refine filterMapAt (fun i member => ?_) n
  have inside : i < tables.length :=
    List.mem_range.mp ((arrangedPositions order tables).mem_iff.mp member)
  simp [inside]

end Scaffold.Migration
