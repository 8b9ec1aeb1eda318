import Scaffold.Proofs.Files.Way
import Scaffold.Proofs.Run.Frame

/-!
Files with nothing in their way. Below a root that is there, or that can be made, each of them is
written, and it is in the way of none of the others.
-/
namespace Scaffold
open FileTree

section

variable {root path : Path} {relative : String}

theorem plainAims (plain : Path.Plain ⟨relative⟩) (root : Path) :
    Aims root relative (root.pushAll (Path.pieces ⟨relative⟩)) :=
  ⟨Path.plainBelow plain, Path.plainSome plain, by rw [Path.plainSegments plain]⟩

theorem plainUnrefused (plain : Path.Plain ⟨relative⟩) (root : Path) (refusal : Refusal) :
    target root relative ≠ .error refusal := by
  rw [targetIff.mpr (plainAims plain root)]
  rintro ⟨⟩

theorem aimsText (plain : Path.Plain ⟨relative⟩) (aims : Aims root relative path) :
    path.text = root.lead ++ relative := by
  rw [aims.joined, Path.pushAllText aims.some namesSegments, Path.plainSegments plain,
    Path.joinPieces]

theorem aimsWhole (plain : Path.Plain ⟨relative⟩) (aims : Aims root relative path)
    (above : '\x00' ∉ root.text.toList) (below : '\x00' ∉ relative.toList) :
    '\x00' ∉ path.text.toList := by
  rw [aimsText plain aims, String.toList_append, List.mem_append, not_or]
  refine ⟨?_, below⟩
  unfold Path.lead
  split
  · exact above
  · simpa using above

theorem aimsFilled (aims : Aims root relative path) : path.text ≠ "" := by
  intro empty
  have none : path.segments = [] := by rw [Path.segments, Path.pieces, empty]; rfl
  rw [aimsSegments aims] at none
  exact aims.some (List.append_eq_nil_iff.mp none).2

theorem aimsParent (aims : Aims root relative path) :
    ∃ parent, path.parent? = some parent ∧ parent.IsParent path := by
  rw [aims.joined, Path.pushAllLast aims.some]
  exact Path.parentOfPush (namesSegments _ (List.getLast_mem _))

theorem aimsEndsOpen (aims : Aims root relative path) : path.endsInSlash = false := by
  rw [aims.joined, Path.pushAllLast aims.some]
  exact Path.pushEndsOpen (namesSegments _ (List.getLast_mem _))

/- For a file below a root, directories are made along the root, and then along the names of the file. -/
theorem aimsOpened (aims : Aims root relative path) (whole : '\x00' ∉ path.text.toList)
    (tree : FileTree) (current : Location) :
    tree.opened current path = tree.makeAlong (origin current root)
      (root.segments ++ (Path.segments ⟨relative⟩).dropLast) := by
  obtain ⟨parent, found, isParent⟩ := aimsParent aims
  have above : origin current parent = origin current root := by
    rw [← aimsOrigin aims, origin, origin, isParent.absolute]
  have clean : parent.text.toList.contains '\x00' = false := by
    rw [Bool.eq_false_iff]
    exact fun member => whole (isParent.chars (by simpa using member))
  rw [FileTree.opened, found]
  simp only [makeDirectories, clean, Bool.false_eq_true, if_false]
  rw [above, isParent.segments, aimsSegments aims, List.dropLast_append_of_ne_nil aims.some]

end

structure Opens (workspace : Workspace) (root : Path) (opened : FileTree) : Prop where
  whole : '\x00' ∉ root.text.toList
  unlimited : workspace.tree.nameLimit = none
  current : workspace.tree.entry? workspace.current = some .directory
  made : workspace.tree.makeAlong (origin workspace.current root) root.segments = (.ok (), opened)

structure Clear (tree : FileTree) (base : Location) (names : List String) : Prop where
  way : tree.Passable base names.dropLast
  free : tree.entry? (names.reverse ++ base) ≠ some .directory

/- A tree that a file was put into, with the directories for it. -/
inductive Landed (opened : FileTree) (base : Location) (names : List String) (content : ByteArray) :
    FileTree → Prop where
  | intro {tree} (made : opened.makeAlong base names.dropLast = (.ok (), tree)) :
      Landed opened base names content (tree.put (names.reverse ++ base) (.file content))

/- What is left of the ways in which a file goes, when nothing is in its way. -/
inductive Lands (root : Path) (options : WriteOptions) (file : File) (before : Workspace)
    (opened : FileTree) : Except Failure Outcome → Workspace → Prop where
  | kept {outcome after} (aims : Aims root file.path outcome.path) (tree : after.tree = before.tree)
      (current : after.current = before.current)
      (spared : options.dryRun = true ∨
        before.tree.isThere before.current outcome.path = true) :
      Lands root options file before opened (.ok outcome) after
  | placed {path after} (aims : Aims root file.path path) (current : after.current = before.current)
      (landed : Landed opened (root.destination before.current) (Path.segments ⟨file.path⟩)
        file.content.toUTF8 after.tree) :
      Lands root options file before opened (.ok (.written path)) after

variable {root path : Path} {options : WriteOptions} {file : File} {files : List File}
  {before after : Workspace} {opened tree : FileTree} {base : Location} {names : List String}

theorem opensGrown (opens : Opens before root opened) : Grown before.tree opened :=
  madeGrown opens.made

theorem opensPaved (opens : Opens before root opened) :
    opened.Paved (origin before.current root) root.segments :=
  makeAlongPaves opens.made

/- Directories made for one file leave the place of a file alone that is not on the way. -/
theorem madeElsewhere {other : List String} (below : ".." ∉ other)
    (apart : ¬ names <+: other) (made : opened.makeAlong base other = (.ok (), tree)) :
    tree.entry? (names.reverse ++ base) = opened.entry? (names.reverse ++ base) := by
  have missed : names.reverse ++ base ∉ stops base other := fun reached =>
    apart ((stopsReach below).mp reached).2
  have kept : entry? (opened.makeAlong base other).2 (names.reverse ++ base) = _ :=
    makeAlongElsewhere missed
  rwa [made] at kept

theorem beyondDropLast (some : names ≠ []) : ¬ names <+: names.dropLast := by
  intro inside
  have shorter := inside.length_le
  have filled := List.length_pos_iff.mpr some
  rw [List.length_dropLast] at shorter
  omega

section

variable (opens : Opens before root opened) (plain : Path.Plain ⟨file.path⟩)
  (whole : '\x00' ∉ file.path.toList) (aims : Aims root file.path path)
  (clear : Clear opened (root.destination before.current) (Path.segments ⟨file.path⟩))

include opens plain whole clear

include aims in
theorem clearOpens :
    ∃ tree, before.tree.opened before.current path = (.ok (), tree) ∧
      opened.makeAlong (root.destination before.current) (Path.segments ⟨file.path⟩).dropLast =
        (.ok (), tree) := by
  have unlimited : opened.nameLimit = none := (opensGrown opens).limit.trans opens.unlimited
  obtain ⟨tree, made⟩ := passableMakes unlimited clear.way
  refine ⟨tree, ?_, made⟩
  rw [aimsOpened aims (aimsWhole plain aims opens.whole whole), makeAlongAppend opens.made]
  exact made

include aims in
theorem clearWrites (content : ByteArray)
    (made : opened.makeAlong (root.destination before.current)
      (Path.segments ⟨file.path⟩).dropLast = (.ok (), tree)) :
    tree.write before.current path content =
      .ok (tree.put (path.destination before.current) (.file content)) := by
  have grown := grownTrans (opensGrown opens) (madeGrown made)
  have stands := grown.kept _ _ (originThere before.current root opens.current)
  have paved : tree.Paved (origin before.current root)
      (root.segments ++ (Path.segments ⟨file.path⟩).dropLast) :=
    pavedAppend.mpr ⟨pavedPersists (grownPersists (madeGrown made)) (opensPaved opens),
      makeAlongPaves made⟩
  have cut : path.segments = root.segments ++ (Path.segments ⟨file.path⟩).dropLast ++
      [(Path.segments ⟨file.path⟩).getLast aims.some] := by
    rw [List.append_assoc, List.dropLast_append_getLast, aimsSegments aims]
  have walked := pavedWalks (grown.limit.trans opens.unlimited) stands paved
    ((Path.segments ⟨file.path⟩).getLast aims.some)
  rw [← cut, ← aimsOrigin aims] at walked
  have located : tree.locate before.current path = .ok (path.destination before.current) := by
    rw [locate, if_neg (by simpa using aimsWhole plain aims opens.whole whole),
      if_neg (by simpa using aimsFilled aims)]
    exact walked
  have free : tree.entry? (path.destination before.current) ≠ some .directory := by
    rw [aimsDestination aims, madeElsewhere (fun back => aims.below (List.mem_of_mem_dropLast back))
      (beyondDropLast aims.some) made]
    exact clear.free
  rw [write, located]
  simp only [bind, Except.bind]
  split
  · contradiction
  · simp [aimsEndsOpen aims, aimsEndsActive aims]
  · simp [aimsEndsOpen aims, aimsEndsActive aims]

theorem goneLands {result : Except Failure Outcome}
    (gone : Gone root options file before result after) :
    Lands root options file before opened result after := by
  cases gone with
  | refused refused => exact absurd refused (plainUnrefused plain root _)
  | announced aims dry => exact .kept aims rfl rfl (.inl dry)
  | skipped aims real there spared => exact .kept aims rfl rfl (.inr there)
  | closed context aims real taken found =>
    obtain ⟨tree, opening, -⟩ := clearOpens opens plain whole aims clear
    cases opening.symm.trans found
  | unwritten context aims real taken found failed =>
    obtain ⟨tree, opening, made⟩ := clearOpens opens plain whole aims clear
    cases opening.symm.trans found
    cases (clearWrites opens plain whole aims clear _ made).symm.trans failed
  | written aims real taken found done =>
    obtain ⟨tree, opening, made⟩ := clearOpens opens plain whole aims clear
    cases opening.symm.trans found
    rw [clearWrites opens plain whole aims clear _ made, aimsDestination aims] at done
    cases done
    exact .placed aims rfl (.intro made)

end

theorem opensKept (opens : Opens before root opened) (tree : after.tree = before.tree)
    (current : after.current = before.current) : Opens after root opened := by
  obtain ⟨whole, unlimited, stands, made⟩ := opens
  refine ⟨whole, ?_, ?_, ?_⟩
  · rw [tree, unlimited]
  · rw [tree, current, stands]
  · rw [tree, current, made]

theorem landedPersists {content : ByteArray} {later : FileTree}
    (named : names ≠ []) (free : opened.entry? (names.reverse ++ base) ≠ some .directory)
    (below : ".." ∉ names)
    (landed : Landed opened base names content later) : Persists opened later := by
  obtain @⟨tree, made⟩ := landed
  have rewritten : Rewritten tree _ (names.reverse ++ base) content := ⟨rfl, ?_⟩
  · exact persistsTrans (grownPersists (madeGrown made)) (rewrittenPersists rewritten)
  rwa [madeElsewhere (fun back => below (List.mem_of_mem_dropLast back)) (beyondDropLast named) made]

structure Spares (base : Location) (names : List String) (opened later : FileTree) : Prop where
  way : opened.Passable base names.dropLast → later.Passable base names.dropLast
  place : later.entry? (names.reverse ++ base) = opened.entry? (names.reverse ++ base)

/- A file that has landed is in the way of no other, unless one has the names of the other on its way. -/
theorem landedSpares {content : ByteArray} {later : FileTree} {other : List String}
    (named : names ≠ []) (below : ".." ∉ names) (otherBelow : ".." ∉ other)
    (left : ¬ names <+: other) (right : ¬ other <+: names)
    (landed : Landed opened base names content later) : Spares base other opened later := by
  obtain @⟨tree, made⟩ := landed
  have filled : names.reverse ++ base ≠ [] := by simp [named]
  constructor
  · intro passable location member
    have apart : location ≠ names.reverse ++ base := by
      rintro rfl
      -- the other file would have all of these names on its way
      have reached := (stopsReach fun back => otherBelow (List.mem_of_mem_dropLast back)).mp member
      exact left (reached.2.trans (List.dropLast_prefix _))
    rw [file?, entryPut filled, if_neg apart, ← file?, grownFile (madeGrown made)]
    exact passable location member
  · have apart : other.reverse ++ base ≠ names.reverse ++ base := by
      intro same
      have same : other = names := List.reverse_injective (List.append_cancel_right same)
      exact right (same ▸ List.prefix_refl _)
    rw [entryPut filled, if_neg apart]
    refine madeElsewhere (fun back => below (List.mem_of_mem_dropLast back)) ?_ made
    exact fun inside => right (inside.trans (List.dropLast_prefix _))

theorem opensLater (opens : Opens before root opened) (persists : Persists opened after.tree)
    (current : after.current = before.current) : Opens after root after.tree := by
  have whole := persistsTrans (grownPersists (opensGrown opens)) persists
  refine ⟨opens.whole, whole.limit.trans opens.unlimited, ?_, pavedMakes ?_⟩ <;> rw [current]
  · exact whole.directory _ opens.current
  · exact pavedPersists persists (opensPaved opens)

structure Placeable (files : List File) : Prop where
  plain : ∀ file ∈ files, Path.Plain ⟨file.path⟩
  whole : ∀ file ∈ files, '\x00' ∉ file.path.toList
  apart : files.Pairwise fun left right =>
    ¬ Path.segments ⟨left.path⟩ <+: Path.segments ⟨right.path⟩ ∧
      ¬ Path.segments ⟨right.path⟩ <+: Path.segments ⟨left.path⟩

theorem placeableRest (placeable : Placeable (file :: files)) : Placeable files :=
  ⟨fun other later => placeable.plain other (List.mem_cons_of_mem _ later),
    fun other later => placeable.whole other (List.mem_cons_of_mem _ later), placeable.apart.of_cons⟩

/- The step of a run: the root can be opened again, and nothing has come in the way of the files that
follow. -/
theorem landsSpares (placeable : Placeable (file :: files)) (opens : Opens before root opened)
    (clear : Clear opened (root.destination before.current) (Path.segments ⟨file.path⟩))
    {result : Except Failure Outcome} (lands : Lands root options file before opened result after) :
    ∃ later, Opens after root later ∧ ∀ other ∈ files,
      Spares (root.destination before.current) (Path.segments ⟨other.path⟩) opened later := by
  cases lands with
  | kept aims tree current spared =>
    exact ⟨opened, opensKept opens tree current, fun _ _ => ⟨id, rfl⟩⟩
  | placed aims current landed =>
    have persists := landedPersists aims.some clear.free aims.below landed
    refine ⟨after.tree, opensLater opens persists current, fun other member => ?_⟩
    obtain ⟨left, right⟩ := List.rel_of_pairwise_cons placeable.apart member
    have below := Path.plainBelow (placeable.plain other (List.mem_cons_of_mem _ member))
    exact landedSpares aims.some aims.below below left right landed

theorem landsCurrent {result : Except Failure Outcome}
    (lands : Lands root options file before opened result after) : after.current = before.current := by
  cases lands with
  | kept _ _ current | placed _ current => exact current

/- The induction carries the tree with the root in it, which is another one after each file. -/
theorem ranLands {result : Except Failure Report} (ran : Ran root options files before result after)
    (placeable : Placeable files) (opens : Opens before root opened)
    (clear : ∀ file ∈ files,
      Clear opened (root.destination before.current) (Path.segments ⟨file.path⟩)) :
    ∃ report, result = .ok report := by
  induction ran generalizing opened with
  | done => exact ⟨_, rfl⟩
  | @stopped file _ _ _ _ gone =>
    have plain := placeable.plain file List.mem_cons_self
    have whole := placeable.whole file List.mem_cons_self
    cases goneLands opens plain whole (clear file List.mem_cons_self) gone
  | @next file rest before outcome between result after gone _ ih =>
    have plain := placeable.plain file List.mem_cons_self
    have whole := placeable.whole file List.mem_cons_self
    have first := clear file List.mem_cons_self
    have lands := goneLands opens plain whole first gone
    obtain ⟨later, again, spares⟩ := landsSpares placeable opens first lands
    obtain ⟨report, rfl⟩ := ih (placeableRest placeable) again fun other member => by
      have still := clear other (List.mem_cons_of_mem _ member)
      obtain ⟨way, place⟩ := spares other member
      rw [landsCurrent lands]
      exact ⟨way still.way, place ▸ still.free⟩
    exact ⟨_, rfl⟩

end Scaffold
