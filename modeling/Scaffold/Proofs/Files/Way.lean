import Scaffold.Proofs.Files.Tree

/-!
The places that a path passes through. Directories are made at each of them unless a file stands
there, and a path that passes only through directories can be written to.
-/
namespace Scaffold.FileTree

def stops (here : Location) : List String → List Location
  | [] => []
  | segment :: rest => step here segment :: stops (step here segment) rest

theorem stopsAppend (here : Location) (front back : List String) :
    stops here (front ++ back) = stops here front ++ stops (front.foldl step here) back := by
  induction front generalizing here with
  | nil => rfl
  | cons segment front ih => simp [stops, ih]

theorem stopsBelow {names : List String} (below : ".." ∉ names) {here location : Location} :
    location ∈ stops here names ↔
      ∃ front, front ≠ [] ∧ front <+: names ∧ location = front.reverse ++ here := by
  induction names generalizing here with
  | nil => simp [stops]
  | cons name names ih =>
    rw [List.mem_cons, not_or] at below
    rw [stops, stepBelow (Ne.symm below.1), List.mem_cons, ih below.2]
    constructor
    · rintro (rfl | ⟨front, -, inside, rfl⟩)
      · exact ⟨[name], List.cons_ne_nil _ _, List.prefix_append _ _, rfl⟩
      · exact ⟨name :: front, List.cons_ne_nil _ _, List.cons_prefix_cons.mpr ⟨rfl, inside⟩, by simp⟩
    · rintro ⟨front, some, inside, rfl⟩
      obtain ⟨first, front, rfl⟩ := List.exists_cons_of_ne_nil some
      obtain ⟨rfl, rest⟩ := List.cons_prefix_cons.mp inside
      by_cases last : front = []
      · exact .inl (by simp [last])
      · exact .inr ⟨front, last, rest, by simp⟩

theorem stopsReach {names other : List String} (below : ".." ∉ other) {here : Location} :
    names.reverse ++ here ∈ stops here other ↔ names ≠ [] ∧ names <+: other := by
  rw [stopsBelow below]
  constructor
  · rintro ⟨front, some, inside, same⟩
    have same : names = front := List.reverse_injective (List.append_cancel_right same)
    exact same ▸ ⟨some, inside⟩
  · rintro ⟨some, inside⟩
    exact ⟨names, some, inside, rfl⟩

variable {tree after : FileTree} {here current location : Location} {segments front back : List String}
  {path : Path}

def Paved (tree : FileTree) (here : Location) (segments : List String) : Prop :=
  ∀ location ∈ stops here segments, tree.entry? location = some .directory

-- no file anywhere along, and perhaps nothing yet
def Passable (tree : FileTree) (here : Location) (segments : List String) : Prop :=
  ∀ location ∈ stops here segments, tree.file? location = none

theorem pavedPersists (persists : Persists tree after) (paved : tree.Paved here segments) :
    after.Paved here segments :=
  fun location member => persists.directory location (paved location member)

theorem pavedCons {segment : String} :
    tree.Paved here (segment :: segments) ↔
      tree.entry? (step here segment) = some .directory ∧ tree.Paved (step here segment) segments :=
  List.forall_mem_cons

theorem pavedAppend : tree.Paved here (front ++ back) ↔
    tree.Paved here front ∧ tree.Paved (front.foldl step here) back := by
  rw [Paved, stopsAppend]
  exact List.forall_mem_append

theorem madeGrown {result : Except FileFault Unit}
    (made : tree.makeAlong here segments = (result, after)) : Grown tree after := by
  have grown := makeAlongGrown tree here segments
  rwa [made] at grown

theorem pavedMakes (paved : tree.Paved here segments) :
    tree.makeAlong here segments = (.ok (), tree) := by
  induction segments generalizing here with
  | nil => rfl
  | cons segment segments ih =>
    obtain ⟨first, rest⟩ := pavedCons.mp paved
    rw [makeAlong]
    simp only [first]
    exact ih rest

theorem makeAlongPaves (made : tree.makeAlong here segments = (.ok (), after)) :
    after.Paved here segments := by
  induction segments generalizing tree here with
  | nil => exact fun location member => absurd member List.not_mem_nil
  | cons segment segments ih =>
    have grown := madeGrown made
    rw [makeAlong] at made
    split at made
    · rename_i found
      exact pavedCons.mpr ⟨grown.kept _ _ found, ih made⟩
    · cases made
    · split at made
      · have below : step here segment ≠ [] := by
          intro top
          simp_all [entryTop]
        have later := madeGrown made
        exact pavedCons.mpr ⟨later.kept _ _ (by rw [entryPut below, if_pos rfl]), ih made⟩
      · cases made

theorem makeAlongAppend (made : tree.makeAlong here front = (.ok (), after)) :
    tree.makeAlong here (front ++ back) = after.makeAlong (front.foldl step here) back := by
  induction front generalizing tree here with
  | nil =>
    cases made
    rfl
  | cons segment front ih =>
    rw [List.cons_append, makeAlong]
    rw [makeAlong] at made
    split at made
    · exact ih made
    · cases made
    · split at made
      · rename_i fits
        rw [if_pos fits]
        exact ih made
      · cases made

/- A directory that was made is one that the segments lead to. -/
theorem makeAlongElsewhere (apart : location ∉ stops here segments) :
    entry? (tree.makeAlong here segments).2 location = tree.entry? location := by
  fun_induction makeAlong tree here segments with
  | case1 => rfl
  | case2 tree here segment rest next found ih => exact ih fun later => apart (List.mem_cons_of_mem _ later)
  | case3 => rfl
  | case4 tree here segment rest next fresh fits ih =>
    have below : next ≠ [] := by
      intro top
      rw [top] at fresh
      contradiction
    rw [ih fun later => apart (List.mem_cons_of_mem _ later), entryPut below, if_neg]
    rintro rfl
    exact apart List.mem_cons_self
  | case5 => rfl

theorem fitsUnlimited (unlimited : tree.nameLimit = none) (segment : String) :
    tree.fits segment = true := by
  rw [fits, unlimited]
  rfl

theorem passableMakes (unlimited : tree.nameLimit = none) (passable : tree.Passable here segments) :
    ∃ after, tree.makeAlong here segments = (.ok (), after) := by
  induction segments generalizing tree here with
  | nil => exact ⟨tree, rfl⟩
  | cons segment segments ih =>
    obtain ⟨first, rest⟩ := List.forall_mem_cons.mp passable
    rw [makeAlong]
    split
    · exact ih unlimited rest
    · rename_i content found
      rw [fileIff.mpr found] at first
      contradiction
    · rename_i fresh
      rw [if_pos (fitsUnlimited unlimited segment)]
      refine ih unlimited fun location member => ?_
      rw [grownFile (putDirectoryGrown fresh)]
      exact rest location member

theorem pavedWalks (unlimited : tree.nameLimit = none) (stands : tree.entry? here = some .directory)
    (paved : tree.Paved here segments) (name : String) :
    tree.walk here (segments ++ [name]) = .ok ((segments ++ [name]).foldl step here) := by
  induction segments generalizing here with
  | nil => simp [walk, stands, fitsUnlimited unlimited]
  | cons segment segments ih =>
    obtain ⟨first, rest⟩ := pavedCons.mp paved
    rw [List.cons_append, walk]
    simp only [stands, fitsUnlimited unlimited, if_true]
    exact ih first rest

end Scaffold.FileTree
