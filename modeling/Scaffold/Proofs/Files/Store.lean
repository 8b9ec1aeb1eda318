import Scaffold.Proofs.Files.Way

/-!
Contents put into a tree one after another. Where each place holds already what comes to it last, nothing
changes, also if something else comes to it before.
-/
namespace Scaffold.FileTree

section

variable {location other : Location} {entries : List (Location × Entry)} {entry : Entry}

theorem putEntrySame (found : entries.lookup location = some entry) :
    putEntry location entry entries = entries := by
  induction entries with
  | nil => contradiction
  | cons first entries ih =>
    obtain ⟨place, old⟩ := first
    by_cases here : place = location
    · subst here
      simp only [List.lookup_cons, beq_self_eq_true, Option.some.injEq] at found
      simp [putEntry, found]
    · have apart : (location == place) = false := beq_eq_false_iff_ne.mpr (Ne.symm here)
      rw [List.lookup_cons, apart] at found
      simp [putEntry, here, ih found]

theorem putEntryTwice (old : Entry) :
    putEntry location entry (putEntry location old entries) = putEntry location entry entries := by
  induction entries with
  | nil => simp [putEntry]
  | cons first entries ih =>
    by_cases here : first.1 = location
    · simp [putEntry, here]
    · simp [putEntry, here, ih]

/- A place that is listed keeps its position, so another may be put before it or after it. -/
theorem putEntrySwap (apart : other ≠ location) (listed : entries.lookup location ≠ none)
    (next : Entry) :
    putEntry other next (putEntry location entry entries) =
      putEntry location entry (putEntry other next entries) := by
  induction entries with
  | nil => contradiction
  | cons first entries ih =>
    obtain ⟨place, old⟩ := first
    by_cases here : place = location
    · subst here
      simp [putEntry, apart.symm]
    · have distinct : (location == place) = false := beq_eq_false_iff_ne.mpr (Ne.symm here)
      rw [List.lookup_cons, distinct] at listed
      by_cases there : place = other
      · simp [putEntry, there, apart]
      · simp [putEntry, here, there, ih listed]

end

variable {tree after : FileTree} {here current location other : Location} {segments : List String}
  {content old : ByteArray} {path : Path} {deposits : List (Location × ByteArray)}

theorem filedBelow (found : tree.file? location = some content) : location ≠ [] := by
  rintro rfl
  contradiction

theorem filedListed (found : tree.file? location = some content) :
    tree.entries.lookup location = some (.file content) := by
  rw [← entryListed (filedBelow found)]
  exact fileIff.mp found

theorem putSame (found : tree.file? location = some content) :
    tree.put location (.file content) = tree := by
  rw [put, putEntrySame (filedListed found)]

theorem putTwice : (tree.put location (.file old)).put location (.file content) =
    tree.put location (.file content) := by
  simp only [put, putEntryTwice]

theorem putSwap (apart : other ≠ location) (found : tree.file? location = some old)
    (next : ByteArray) :
    (tree.put location (.file content)).put other (.file next) =
      (tree.put other (.file next)).put location (.file content) := by
  have listed : tree.entries.lookup location ≠ none := by simp [filedListed found]
  simp only [put, putEntrySwap apart listed]

theorem entryElsewhere (apart : other ≠ location) (entry : Entry) :
    entry? (tree.put location entry) other = tree.entry? other := by
  by_cases top : other = []
  · subst top
    rfl
  · rw [entryListed top, entryListed top, put, lookupPut, if_neg apart]

def putFiles (tree : FileTree) : List (Location × ByteArray) → FileTree
  | [] => tree
  | (location, content) :: rest => (tree.put location (.file content)).putFiles rest

theorem putFilesOver (later : location ∈ deposits.map (·.1)) (found : tree.file? location = some old) :
    (tree.put location (.file content)).putFiles deposits = tree.putFiles deposits := by
  induction deposits generalizing tree old with
  | nil => simp at later
  | cons deposit deposits ih =>
    obtain ⟨place, next⟩ := deposit
    rw [putFiles, putFiles]
    by_cases same : location = place
    · subst same
      rw [putTwice]
    · have rest : location ∈ deposits.map (·.1) := (List.mem_cons.mp later).resolve_left same
      have still : file? (tree.put place (.file next)) location = some old := by
        rw [fileIff, entryElsewhere same, ← fileIff, found]
      rw [putSwap (Ne.symm same) found]
      exact ih rest still

inductive Settled (tree : FileTree) : List (Location × ByteArray) → Prop where
  | nil : Settled tree []
  | last {location content rest} (found : tree.file? location = some content)
      (tail : Settled tree rest) : Settled tree ((location, content) :: rest)
  | twice {location content rest} (later : location ∈ rest.map (·.1)) (tail : Settled tree rest) :
      Settled tree ((location, content) :: rest)

theorem settledFile (settled : Settled tree deposits) (member : location ∈ deposits.map (·.1)) :
    ∃ content, tree.file? location = some content := by
  induction settled with
  | nil => simp at member
  | last found tail ih =>
    rcases List.mem_cons.mp member with rfl | rest
    · exact ⟨_, found⟩
    · exact ih rest
  | twice later tail ih =>
    rcases List.mem_cons.mp member with rfl | rest
    · exact ih later
    · exact ih rest

theorem settledPutFiles (settled : Settled tree deposits) : tree.putFiles deposits = tree := by
  induction settled with
  | nil => rfl
  | last found tail ih =>
    rw [putFiles, putSame found]
    exact ih
  | twice later tail ih =>
    obtain ⟨old, found⟩ := settledFile tail later
    rw [putFiles, putFilesOver later found]
    exact ih

theorem walkPersists (persists : Persists tree after)
    (walked : tree.walk here segments = .ok location) : after.walk here segments = .ok location := by
  induction segments generalizing here with
  | nil => exact walked
  | cons segment segments ih =>
    rw [walk] at walked
    split at walked
    · rename_i stands
      split at walked
      · rename_i fits
        have fits : after.fits segment = true := by rwa [FileTree.fits, persists.limit]
        rw [walk, persists.directory _ stands]
        simp only [fits, if_true]
        exact ih walked
      · contradiction
    · contradiction
    · contradiction

theorem locatePersists (persists : Persists tree after)
    (located : tree.locate current path = .ok location) : after.locate current path = .ok location := by
  obtain ⟨whole, filled, walked⟩ := locateWalks located
  rw [locate, if_neg (by simpa using whole), if_neg (by simpa using filled)]
  exact walkPersists persists walked

/- What was made is there, so that there is nothing left to make. -/
theorem makeDirectoriesLater {between : FileTree}
    (made : tree.makeDirectories current path = (.ok (), between)) (persists : Persists between after) :
    after.makeDirectories current path = (.ok (), after) := by
  unfold makeDirectories at made ⊢
  split at made
  · cases made
  · rename_i whole
    rw [if_neg whole]
    exact pavedMakes (pavedPersists persists (makeAlongPaves made))

end Scaffold.FileTree
