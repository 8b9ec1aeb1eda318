import Scaffold.Proofs.Run.Writing

/-!
What writing below a root leaves alone, however it ends. Nothing is deleted, and only the targets of
the files change; without force they are new, unless the root steps back from a directory that is not
there.
-/
namespace Scaffold

def Outcome.path : Outcome → Path
  | written path | skipped path => path

variable {root path : Path} {options : WriteOptions} {file : File} {files : List File}
  {before after : Workspace} {current : Location} {relative : String}

namespace FileTree

variable {tree after : FileTree}

theorem openedGrown {result : Except FileFault Unit}
    (opens : tree.opened current path = (result, after)) : Grown tree after := by
  have leaves : after = (tree.opened current path).2 := by rw [opens]
  rw [leaves]
  unfold opened
  split
  · exact makeDirectoriesGrown _ _ _
  · exact grownSelf _

theorem openedRooted (rooted : tree.Rooted) (stands : tree.entry? current = some .directory)
    {result : Except FileFault Unit} (opens : tree.opened current path = (result, after)) :
    after.Rooted := by
  have leaves : after = (tree.opened current path).2 := by rw [opens]
  rw [leaves]
  unfold opened
  split
  · exact makeDirectoriesRooted rooted stands _
  · exact rooted

theorem writeRewrites {content : ByteArray} (written : tree.write current path content = .ok after) :
    tree.locate current path = .ok (path.destination current) ∧
      Rewritten tree after (path.destination current) content := by
  obtain ⟨location, located, rewritten⟩ := writePuts written
  obtain ⟨-, -, walked⟩ := locateWalks located
  rw [Path.destination, ← (walkGoes walked).1]
  exact ⟨located, rewritten⟩

theorem locatedInDirectory (rooted : tree.Rooted) (stands : tree.entry? current = some .directory)
    {location : Location} (located : tree.locate current path = .ok location) :
    tree.entry? location.tail = some .directory := by
  obtain ⟨-, -, walked⟩ := locateWalks located
  exact walkInDirectory rooted (rooted _ _ (originThere current path stands)) walked

end FileTree

open FileTree

structure Workspace.Guarded (workspace : Workspace) (root : Path) : Prop where
  rooted : workspace.tree.Rooted
  current : workspace.tree.entry? workspace.current = some .directory
  back : workspace.tree.Retraces (origin workspace.current root) root.segments

structure Framed (root : Path) (options : WriteOptions) (files : List File)
    (before after : Workspace) : Prop where
  current : after.current = before.current
  persists : before.tree.Persists after.tree
  dry : options.dryRun = true → after.tree = before.tree
  changed : ∀ location, after.tree.file? location ≠ before.tree.file? location →
    ∃ file ∈ files, ∃ path, Aims root file.path path ∧
      location = path.destination before.current
  guarded : before.Guarded root → after.Guarded root
  spared : options.force = false → before.Guarded root →
    ∀ location content, before.tree.file? location = some content →
      after.tree.file? location = some content

theorem guardedLater (guarded : before.Guarded root) (place : after.current = before.current)
    (rooted : after.tree.Rooted) (persists : before.tree.Persists after.tree) :
    after.Guarded root := by
  refine ⟨rooted, ?_, ?_⟩ <;> rw [place]
  · exact persists.directory _ guarded.current
  · exact retracesPersists persists guarded.back

theorem framedSame (same : after.tree = before.tree) (place : after.current = before.current) :
    Framed root options files before after where
  current := place
  persists := same ▸ persistsSelf _
  dry _ := same
  changed location different := absurd (by rw [same]) different
  guarded guarded := guardedLater guarded place (same ▸ guarded.rooted) (same ▸ persistsSelf _)
  spared _ _ _ _ found := by rw [same, found]

/- Directories that were made hold no file, so no file has changed. -/
theorem framedGrown {tree : FileTree} (real : options.dryRun = false)
    (grown : Grown before.tree tree) (rooted : before.Guarded root → tree.Rooted) :
    Framed root options files before { before with tree := tree } where
  current := rfl
  persists := grownPersists grown
  dry dry := absurd (real.symm.trans dry) Bool.false_ne_true
  changed location different := absurd (grownFile grown location) different
  guarded guarded := guardedLater guarded rfl (rooted guarded) (grownPersists grown)
  spared _ _ location _ found := (grownFile grown location).trans found

theorem framedTrans {first second : List File} {between : Workspace}
    (left : Framed root options first before between)
    (right : Framed root options second between after) :
    Framed root options (first ++ second) before after where
  current := right.current.trans left.current
  persists := persistsTrans left.persists right.persists
  dry dry := (right.dry dry).trans (left.dry dry)
  changed location different := by
    by_cases same : between.tree.file? location = before.tree.file? location
    · obtain ⟨file, member, path, aims, goal⟩ := right.changed location (same ▸ different)
      exact ⟨file, List.mem_append_right _ member, path, aims, left.current ▸ goal⟩
    · obtain ⟨file, member, path, aims, goal⟩ := left.changed location same
      exact ⟨file, List.mem_append_left _ member, path, aims, goal⟩
  guarded guarded := right.guarded (left.guarded guarded)
  spared unforced guarded location content found :=
    right.spared unforced (left.guarded guarded) location content
      (left.spared unforced guarded location content found)

/- A file that stands where the path leads is seen under this path. -/
theorem aimsSeen (guarded : before.Guarded root) (aims : Aims root relative path)
    {later : FileTree} (limit : later.nameLimit = before.tree.nameLimit) {location : Location}
    (located : later.locate before.current path = .ok location) {content : ByteArray}
    (found : before.tree.file? (path.destination before.current) = some content) :
    before.tree.isThere before.current path = true := by
  obtain ⟨whole, filled, walked⟩ := locateWalks located
  -- the later tree found every name short enough, and the limit is the same
  have fits : ∀ segment ∈ path.segments, before.tree.fits segment = true := by
    intro segment member
    have later := (walkGoes walked).2 segment member
    rwa [fits, limit] at later
  have back : before.tree.Retraces (origin before.current path) path.segments := by
    rw [aimsOrigin aims, aimsSegments aims]
    exact retracesAppend guarded.back (retracesBelow aims.below _)
  have reached : before.tree.locate before.current path = .ok (path.destination before.current) := by
    rw [locate, if_neg (by simpa using whole), if_neg (by simpa using filled)]
    exact walkReaches guarded.rooted back fits (fileIff.mp found)
  simp [isThere, find, reached, fileIff.mp found, aimsEndsActive aims, bind, Except.bind,
    Except.isOk, Except.toBool]

theorem goneFramed {result : Except Failure Outcome}
    (gone : Gone root options file before result after) :
    Framed root options [file] before after := by
  cases gone with
  | refused | announced | skipped => exact framedSame rfl rfl
  | closed context aims real taken opens =>
    exact framedGrown real (openedGrown opens) fun guarded =>
      openedRooted guarded.rooted guarded.current opens
  | unwritten context aims real taken opens =>
    exact framedGrown real (openedGrown opens) fun guarded =>
      openedRooted guarded.rooted guarded.current opens
  | @written path tree final aims real taken opens done =>
    have grown := openedGrown opens
    obtain ⟨located, rewritten⟩ := writeRewrites done
    have persists := persistsTrans (grownPersists grown) (rewrittenPersists rewritten)
    refine ⟨rfl, persists, ?_, ?_, ?_, ?_⟩
    · exact fun dry => absurd (real.symm.trans dry) Bool.false_ne_true
    · intro location different
      refine ⟨file, List.mem_singleton_self _, path, aims, ?_⟩
      by_contra apart
      exact different ((rewrittenFile rewritten apart).trans (grownFile grown location))
    · intro guarded
      have rooted := openedRooted guarded.rooted guarded.current opens
      have stands := grown.kept _ _ guarded.current
      have inside := locatedInDirectory rooted stands located
      exact guardedLater guarded rfl (rewrittenRooted rooted inside rewritten) persists
    · intro unforced guarded location content found
      -- a file at this place would have been seen, and so been skipped
      by_cases same : location = path.destination before.current
      · have there := aimsSeen guarded aims grown.limit located (same ▸ found)
        have forced := taken.resolve_left (by simp [there])
        exact absurd (unforced.symm.trans forced) Bool.false_ne_true
      · rw [← found, ← grownFile grown]
        exact rewrittenFile rewritten same

theorem ranFramed {result : Except Failure Report} (ran : Ran root options files before result after) :
    Framed root options files before after := by
  induction ran with
  | done => exact framedSame rfl rfl
  | stopped gone =>
    exact framedTrans (goneFramed gone) (framedSame rfl rfl)
  | next gone _ ih => exact framedTrans (goneFramed gone) ih

theorem projectFramed (project : Project) (root : Path) (options : WriteOptions)
    (before : Workspace) :
    Framed root options project.resolved before ((writeProject project root options).on before).2 := by
  obtain ⟨after, events, ran, left⟩ := projectRuns project root options before
  rw [left]
  have framed := framedTrans (ranFramed ran)
    (framedSame rfl rfl : Framed root options [] after { after with events := events })
  rwa [List.append_nil] at framed

theorem ranReported {report : Report} (ran : Ran root options files before (.ok report) after) :
    List.Forall₂ (fun file outcome => Aims root file.path outcome.path) files report := by
  generalize ended : (.ok report : Except Failure Report) = result at ran
  induction ran generalizing report with
  | done =>
    cases ended
    exact .nil
  | stopped gone => contradiction
  | @next file rest before outcome between result after gone ran ih =>
    cases result with
    | error failure => contradiction
    | ok others =>
      cases ended
      refine .cons ?_ (ih rfl)
      cases gone with
      | announced aims | skipped aims | written aims => exact aims

structure WriterFrame (project : Project) (root : Path) (options : WriteOptions) (before : Workspace)
    (result : Except Failure Report) (after : Workspace) : Prop where
  kept : before.tree.Persists after.tree
  changed : ∀ location, after.tree.file? location ≠ before.tree.file? location →
    ∃ file ∈ project.resolved, ∃ path, Aims root file.path path ∧
      location = path.destination before.current ∧
      ∃ names ≠ [], ".." ∉ names ∧ location = names ++ root.destination before.current
  dry : options.dryRun = true → after.tree = before.tree
  spared : options.force = false → before.Guarded root →
    ∀ location content, before.tree.file? location = some content →
      after.tree.file? location = some content
  reported : ∀ report, result = .ok report →
    List.Forall₂ (fun file outcome => Aims root file.path outcome.path) project.resolved report

theorem writerFrame (project : Project) (root : Path) (options : WriteOptions) (before : Workspace) :
    WriterFrame project root options before
      ((writeProject project root options).on before).1
      ((writeProject project root options).on before).2 := by
  obtain ⟨after, events, ran, left⟩ := projectRuns project root options before
  have framed := ranFramed ran
  rw [left]
  refine ⟨framed.persists, fun location different => ?_, framed.dry, framed.spared, ?_⟩
  · obtain ⟨file, member, path, aims, goal⟩ := framed.changed location different
    refine ⟨file, member, path, aims, goal, (Path.segments ⟨file.path⟩).reverse, ?_, ?_, ?_⟩
    · simpa using aims.some
    · simpa using aims.below
    · rw [goal, aimsDestination aims]
  · intro report ended
    rw [ended] at ran
    exact ranReported ran

/- A desk with one note on it, and a project that would put another in its place. -/
def desk : Workspace where
  tree := { entries := [(["notes.md"], .file "mine".toUTF8)] }

def notes : Project where
  files := [⟨"./notes.md", "generated"⟩, ⟨"drafts//notes.md", "generated"⟩]
  warnings := []

theorem deskGuarded : desk.Guarded ⟨"."⟩ := by
  refine ⟨rootedListed fun listed member => ?_, rfl, trivial⟩
  rw [List.mem_singleton.mp member]
  exact entryTop _

/- Beside the root the note is kept and the draft is written. -/
theorem deskKept :
    ((writeProject notes ⟨"."⟩ {}).on desk).2.tree.file? ["notes.md"] = some "mine".toUTF8 ∧
      ((writeProject notes ⟨"."⟩ {}).on desk).2.tree.file? ["notes.md", "drafts"] =
        some "generated".toUTF8 :=
  ⟨(writerFrame notes ⟨"."⟩ {} desk).spared rfl deskGuarded _ _ (by decide +kernel),
    by decide +kernel⟩

/- The note is looked for before its root can be stepped through, and not again once the missing
directory has been made. -/
theorem strayRootOverwrites :
    desk.Guarded ⟨"."⟩ ∧
      ¬ ∀ location content, desk.tree.file? location = some content →
        ((writeProject notes ⟨"missing/.."⟩ {}).on desk).2.tree.file? location = some content := by
  refine ⟨deskGuarded, fun spared => ?_⟩
  have kept := spared ["notes.md"] "mine".toUTF8 (by decide +kernel)
  revert kept
  decide +kernel

end Scaffold
