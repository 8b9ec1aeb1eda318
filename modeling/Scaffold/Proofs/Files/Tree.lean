import Mathlib.Data.List.Infix
import Scaffold.Files.Tree
import Scaffold.Proofs.Files.Path

/-!
What the operations on a tree leave as it was. Directories are made only where nothing stood, and a
written file changes one place.
-/
namespace Scaffold

def Path.destination (path : Path) (current : Location) : Location :=
  path.segments.foldl FileTree.step (FileTree.origin current path)

namespace FileTree

def file? (tree : FileTree) (location : Location) : Option ByteArray :=
  match tree.entry? location with
  | some (.file content) => some content
  | _ => none

theorem fileIff {tree : FileTree} {location : Location} {content : ByteArray} :
    tree.file? location = some content ↔ tree.entry? location = some (.file content) := by
  unfold file?
  split
  · rename_i other found
    simp [found]
  · rename_i absent
    refine ⟨fun impossible => ?_, fun found => absurd found (absent content)⟩
    contradiction

theorem entryTop (tree : FileTree) : tree.entry? [] = some .directory :=
  rfl

theorem entryListed {tree : FileTree} {location : Location} (below : location ≠ []) :
    tree.entry? location = tree.entries.lookup location := by
  simp [ entry?, below]

theorem lookupPut (location other : Location) (entry : Entry) (entries : List (Location × Entry)) :
    (putEntry location entry entries).lookup other =
      if other = location then some entry else entries.lookup other := by
  induction entries with
  | nil =>
    by_cases same : other = location
    · simp [putEntry, same]
    · have apart : (other == location) = false := beq_eq_false_iff_ne.mpr same
      simp only [putEntry, List.lookup_cons, apart, List.lookup_nil, if_neg same]
  | cons first entries ih =>
    obtain ⟨place, old⟩ := first
    by_cases here : place = location
    · subst here
      by_cases same : other = place
      · simp [putEntry, same]
      · have apart : (other == place) = false := beq_eq_false_iff_ne.mpr same
        simp only [putEntry, beq_self_eq_true, if_true, List.lookup_cons, apart, if_neg same]
    · simp only [putEntry, beq_iff_eq, here, if_false]
      by_cases same : other = place
      · simp [same, here]
      · have apart : (other == place) = false := beq_eq_false_iff_ne.mpr same
        simp only [List.lookup_cons, apart, ih]

theorem entryPut {tree : FileTree} {location : Location} (below : location ≠ []) (entry : Entry)
    (other : Location) :
    entry? (tree.put location entry) other =
      if other = location then some entry else tree.entry? other := by
  by_cases top : other = []
  · subst top
    simp [entryTop, below.symm]
  · rw [entryListed top, entryListed top, put, lookupPut]

theorem stepAbove {here : Location} {segment : String} (above : segment = "..") :
    step here segment = here.tail := by
  simp [step, above]

theorem stepBelow {here : Location} {segment : String} (name : segment ≠ "..") :
    step here segment = segment :: here := by
  simp [step, name]

theorem stepsBelow {names : List String} (below : ".." ∉ names) (here : Location) :
    names.foldl step here = names.reverse ++ here := by
  induction names generalizing here with
  | nil => rfl
  | cons name names ih =>
    rw [List.mem_cons, not_or] at below
    rw [List.foldl_cons, stepBelow (Ne.symm below.1), ih below.2, List.reverse_cons,
      List.append_assoc]
    rfl

/-- All that stood before stands there still: directories as they were, files perhaps with another
content. -/
structure Persists (before after : FileTree) : Prop where
  limit : after.nameLimit = before.nameLimit
  directory : ∀ location, before.entry? location = some .directory →
    after.entry? location = some .directory
  file : ∀ location content, before.file? location = some content →
    ∃ other, after.file? location = some other

/-- Directories may have been made where nothing stood; there is no other change. -/
structure Grown (before after : FileTree) : Prop where
  limit : after.nameLimit = before.nameLimit
  kept : ∀ location entry, before.entry? location = some entry →
    after.entry? location = some entry
  made : ∀ location, before.entry? location = none →
    after.entry? location = none ∨ after.entry? location = some .directory

theorem persistsSelf (tree : FileTree) : Persists tree tree :=
  ⟨rfl, fun _ found => found, fun _ content found => ⟨content, found⟩⟩

theorem persistsTrans {first second third : FileTree} (left : Persists first second)
    (right : Persists second third) : Persists first third := by
  refine ⟨right.limit.trans left.limit, fun location found => ?_, fun location content found => ?_⟩
  · exact right.directory location (left.directory location found)
  · obtain ⟨middle, there⟩ := left.file location content found
    exact right.file location middle there

theorem grownSelf (tree : FileTree) : Grown tree tree :=
  ⟨rfl, fun _ _ found => found, fun _ none => .inl none⟩

theorem grownTrans {first second third : FileTree} (left : Grown first second)
    (right : Grown second third) : Grown first third := by
  refine ⟨right.limit.trans left.limit, fun location entry found => ?_, fun location none => ?_⟩
  · exact right.kept location entry (left.kept location entry found)
  · rcases left.made location none with still | made
    · exact right.made location still
    · exact .inr (right.kept location _ made)

variable {tree after : FileTree} {here current location : Location} {segments : List String}
  {path : Path}

theorem grownPersists (grown : Grown tree after) : Persists tree after := by
  refine ⟨grown.limit, fun location found => grown.kept location _ found, ?_⟩
  intro location content found
  exact ⟨content, fileIff.mpr (grown.kept location _ (fileIff.mp found))⟩

theorem grownFile (grown : Grown tree after) (location : Location) :
    after.file? location = tree.file? location := by
  unfold file?
  cases before : tree.entry? location with
  | some entry => rw [grown.kept location entry before]
  | none => rcases grown.made location before with none | made <;> simp [*]

theorem putDirectoryGrown (fresh : tree.entry? location = none) :
    Grown tree (tree.put location .directory) := by
  have below : location ≠ [] := by
    rintro rfl
    contradiction
  refine ⟨rfl, fun other entry found => ?_, fun other none => ?_⟩
  · rw [entryPut below, if_neg (by rintro rfl; rw [fresh] at found; contradiction), found]
  · rw [entryPut below]
    split
    · exact .inr rfl
    · exact .inl none

theorem makeAlongGrown (tree : FileTree) (here : Location) (segments : List String) :
    Grown tree (tree.makeAlong here segments).2 := by
  fun_induction makeAlong tree here segments with
  | case1 => exact grownSelf _
  | case2 _ _ _ _ _ _ ih => exact ih
  | case3 => exact grownSelf _
  | case4 _ _ _ _ _ fresh _ ih => exact grownTrans (putDirectoryGrown fresh) ih
  | case5 => exact grownSelf _

theorem makeDirectoriesGrown (tree : FileTree) (current : Location) (path : Path) :
    Grown tree (tree.makeDirectories current path).2 := by
  unfold makeDirectories
  split
  · exact grownSelf _
  · exact makeAlongGrown _ _ _

theorem walkGoes (walked : tree.walk here segments = .ok location) :
    location = segments.foldl step here ∧ ∀ segment ∈ segments, tree.fits segment = true := by
  induction segments generalizing here with
  | nil => cases walked; simp
  | cons segment segments ih =>
    rw [walk] at walked
    split at walked
    · split at walked
      · rename_i fits
        obtain ⟨goes, rest⟩ := ih walked
        exact ⟨goes, List.forall_mem_cons.mpr ⟨fits, rest⟩⟩
      · contradiction
    · contradiction
    · contradiction

def Rooted (tree : FileTree) : Prop :=
  ∀ location entry, tree.entry? location = some entry → tree.entry? location.tail = some .directory

theorem rootedListed
    (inside : ∀ listed ∈ tree.entries, tree.entry? listed.1.tail = some .directory) : tree.Rooted := by
  intro location entry found
  by_cases top : location = []
  · subst top
    exact entryTop tree
  · rw [entryListed top] at found
    obtain ⟨front, back, whole, -⟩ := List.lookup_eq_some_iff.mp found
    exact inside (location, entry) (by simp [whole])

def Retraces (tree : FileTree) : Location → List String → Prop
  | _, [] => True
  | here, segment :: rest =>
    (segment = ".." → tree.entry? here = some .directory) ∧ Retraces tree (step here segment) rest

theorem retracesPersists (persists : Persists tree after) (back : tree.Retraces here segments) :
    after.Retraces here segments := by
  induction segments generalizing here with
  | nil => trivial
  | cons segment segments ih =>
    exact ⟨fun above => persists.directory _ (back.1 above), ih back.2⟩

theorem retracesBelow (below : ".." ∉ segments) (here : Location) : tree.Retraces here segments := by
  induction segments generalizing here with
  | nil => trivial
  | cons segment segments ih =>
    rw [List.mem_cons, not_or] at below
    exact ⟨fun above => absurd above.symm below.1, ih below.2 _⟩

theorem retracesAppend {more : List String} (first : tree.Retraces here segments)
    (second : tree.Retraces (segments.foldl step here) more) :
    tree.Retraces here (segments ++ more) := by
  induction segments generalizing here with
  | nil => exact second
  | cons segment segments ih => exact ⟨first.1, ih first.2 second⟩

/- From a place that is there one can go back along the way to directories: by a step back only from a
directory, by any other because the place is in one. -/
theorem startsThere (rooted : tree.Rooted) {entry : Entry} (back : tree.Retraces here segments)
    (there : tree.entry? (segments.foldl step here) = some entry) (goes : segments ≠ []) :
    tree.entry? here = some .directory := by
  induction segments generalizing here with
  | nil => contradiction
  | cons segment segments ih =>
    by_cases above : segment = ".."
    · exact back.1 above
    · obtain ⟨next, found⟩ : ∃ next, tree.entry? (step here segment) = some next := by
        cases segments with
        | nil => exact ⟨entry, there⟩
        | cons => exact ⟨.directory, ih back.2 there (List.cons_ne_nil _ _)⟩
      have parent := rooted _ next found
      rwa [stepBelow above] at parent

theorem walkReaches (rooted : tree.Rooted) {entry : Entry} (back : tree.Retraces here segments)
    (fits : ∀ segment ∈ segments, tree.fits segment = true)
    (there : tree.entry? (segments.foldl step here) = some entry) :
    tree.walk here segments = .ok (segments.foldl step here) := by
  induction segments generalizing here with
  | nil => rfl
  | cons segment segments ih =>
    obtain ⟨first, rest⟩ := List.forall_mem_cons.mp fits
    rw [walk, startsThere rooted back there (List.cons_ne_nil _ _)]
    simp only [first, if_true]
    exact ih back.2 rest there

theorem makeAlongRooted (rooted : tree.Rooted) (stands : tree.entry? here = some .directory) :
    (tree.makeAlong here segments).2.Rooted := by
  fun_induction makeAlong tree here segments with
  | case1 => exact rooted
  | case2 tree here segment rest next found ih => exact ih rooted found
  | case3 => exact rooted
  | case4 tree here segment rest next fresh fits ih =>
    have below : next ≠ [] := by
      intro top
      rw [top] at fresh
      contradiction
    have name : segment ≠ ".." := by
      intro above
      have parent := rooted here _ stands
      rw [← stepAbove above, fresh] at parent
      contradiction
    refine ih (fun location entry found => ?_) (by rw [entryPut below, if_pos rfl])
    refine (putDirectoryGrown fresh).kept _ _ ?_
    rw [entryPut below] at found
    split at found
    · rename_i same
      rw [same]
      have inside : next.tail = here := by rw [show next = _ from stepBelow name, List.tail_cons]
      rwa [inside]
    · exact rooted location entry found
  | case5 => exact rooted

theorem originThere (current : Location) (path : Path) (stands : tree.entry? current = some .directory) :
    tree.entry? (origin current path) = some .directory := by
  unfold origin
  split
  · exact entryTop tree
  · exact stands

theorem makeDirectoriesRooted (rooted : tree.Rooted) (stands : tree.entry? current = some .directory)
    (path : Path) : (tree.makeDirectories current path).2.Rooted := by
  unfold makeDirectories
  split
  · exact rooted
  · exact makeAlongRooted rooted (originThere current path stands)

/- The place that a walk ends at is in a directory, even where nothing stands there. -/
theorem walkInDirectory (rooted : tree.Rooted) (parent : tree.entry? here.tail = some .directory)
    (walked : tree.walk here segments = .ok location) :
    tree.entry? location.tail = some .directory := by
  induction segments generalizing here with
  | nil =>
    cases walked
    exact parent
  | cons segment segments ih =>
    rw [walk] at walked
    split at walked
    · rename_i stands
      split at walked
      · refine ih ?_ walked
        by_cases above : segment = ".."
        · rw [stepAbove above]
          exact rooted _ _ (rooted _ _ stands)
        · rw [stepBelow above]
          exact stands
      · contradiction
    · contradiction
    · contradiction

theorem locateWalks (located : tree.locate current path = .ok location) :
    '\x00' ∉ path.text.toList ∧ path.text ≠ "" ∧
      tree.walk (origin current path) path.segments = .ok location := by
  unfold locate at located
  split at located
  · contradiction
  · rename_i whole
    split at located
    · contradiction
    · rename_i filled
      refine ⟨by simpa using whole, ?_, located⟩
      rintro empty
      exact filled (by simp [empty])

structure Rewritten (before after : FileTree) (location : Location) (content : ByteArray) : Prop where
  tree : after = before.put location (.file content)
  free : before.entry? location ≠ some .directory

theorem writePuts {content : ByteArray} (written : tree.write current path content = .ok after) :
    ∃ location, tree.locate current path = .ok location ∧ Rewritten tree after location content := by
  unfold write at written
  cases located : tree.locate current path with
  | error fault =>
    rw [located] at written
    contradiction
  | ok location =>
    rw [located] at written
    simp only [bind, Except.bind] at written
    refine ⟨location, rfl, ?_⟩
    cases found : tree.entry? location with
    | none =>
      simp only [found] at written
      split at written
      · contradiction
      · split at written
        · contradiction
        · cases written
          exact ⟨rfl, by simp [found]⟩
    | some entry =>
      cases entry with
      | directory => simp [found] at written
      | file old =>
        simp only [found] at written
        split at written
        · contradiction
        · split at written
          · contradiction
          · cases written
            exact ⟨rfl, by simp [found]⟩

theorem rewrittenBelow {content : ByteArray} (rewritten : Rewritten tree after location content) :
    location ≠ [] := by
  rintro rfl
  exact rewritten.free (entryTop tree)

theorem rewrittenEntry {content : ByteArray} (rewritten : Rewritten tree after location content)
    (other : Location) :
    after.entry? other = if other = location then some (.file content) else tree.entry? other := by
  rw [rewritten.tree]
  exact entryPut (rewrittenBelow rewritten) _ _

theorem rewrittenPersists {content : ByteArray} (rewritten : Rewritten tree after location content) :
    Persists tree after := by
  refine ⟨by rw [rewritten.tree]; rfl, fun other found => ?_, fun other old found => ?_⟩
  · have apart : other ≠ location := by
      rintro rfl
      exact rewritten.free found
    rw [rewrittenEntry rewritten, if_neg apart, found]
  · by_cases same : other = location
    · exact ⟨content, fileIff.mpr (by rw [rewrittenEntry rewritten, if_pos same])⟩
    · refine ⟨old, fileIff.mpr ?_⟩
      rw [rewrittenEntry rewritten, if_neg same, fileIff.mp found]

theorem rewrittenFile {content : ByteArray} (rewritten : Rewritten tree after location content)
    {other : Location} (apart : other ≠ location) : after.file? other = tree.file? other := by
  unfold file?
  rw [rewrittenEntry rewritten, if_neg apart]

theorem rewrittenRooted {content : ByteArray} (rooted : tree.Rooted)
    (parent : tree.entry? location.tail = some .directory)
    (rewritten : Rewritten tree after location content) : after.Rooted := by
  intro other entry found
  refine (rewrittenPersists rewritten).directory _ ?_
  rw [rewrittenEntry rewritten] at found
  split at found
  · rename_i same
    rw [same]
    exact parent
  · exact rooted other entry found

end FileTree
end Scaffold
