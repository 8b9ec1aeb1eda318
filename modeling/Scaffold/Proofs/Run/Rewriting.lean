import Scaffold.Proofs.Files.Store
import Scaffold.Proofs.Run.Landing

/-!
A project written below a root a second time. After a run that went well every file is there, so the next one
skips all of them or, with force, puts each of them where it is; the tree stays as it was.
-/
namespace Scaffold
open FileTree

variable {root path : Path} {options : WriteOptions} {file : File} {files : List File}
  {before after : Workspace} {tree opened : FileTree} {current : Location} {relative : String}
  {report : Report}

theorem isThereFile (aims : Aims root relative path) {location : Location} {content : ByteArray}
    (located : tree.locate current path = .ok location) (found : tree.file? location = some content) :
    tree.isThere current path = true := by
  simp [isThere, find, located, fileIff.mp found, aimsEndsActive aims, bind, Except.bind, Except.isOk,
    Except.toBool]

theorem isTherePersists (aims : Aims root relative path) (persists : Persists tree opened)
    (there : tree.isThere current path = true) : opened.isThere current path = true := by
  cases located : tree.locate current path with
  | error fault => simp [isThere, find, located, bind, Except.bind, Except.isOk, Except.toBool] at there
  | ok location =>
    have later := locatePersists persists located
    cases found : tree.entry? location with
    | none =>
      simp [isThere, find, located, found, bind, Except.bind, Except.isOk, Except.toBool] at there
    | some entry =>
      cases entry with
      | directory =>
        simp [isThere, find, later, persists.directory _ found, bind, Except.bind, Except.isOk,
          Except.toBool]
      | file content =>
        obtain ⟨other, filed⟩ := persists.file location content (fileIff.mpr found)
        exact isThereFile aims later filed

theorem openedLater (made : tree.opened current path = (.ok (), opened)) {later : FileTree}
    (persists : Persists opened later) : later.opened current path = (.ok (), later) := by
  unfold FileTree.opened at made ⊢
  split
  · rename_i parent above
    rw [above] at made
    exact makeDirectoriesLater made persists
  · rfl

structure Stored (tree : FileTree) (current : Location) (path : Path) : Prop where
  opened : tree.opened current path = (.ok (), tree)
  located : tree.locate current path = .ok (path.destination current)
  filed : ∃ content, tree.file? (path.destination current) = some content

theorem storedPersists (stored : Stored tree current path) (persists : Persists tree opened) :
    Stored opened current path := by
  obtain ⟨content, found⟩ := stored.filed
  exact ⟨openedLater stored.opened persists, locatePersists persists stored.located,
    persists.file _ content found⟩

theorem storedThere (aims : Aims root relative path) (stored : Stored tree current path) :
    tree.isThere current path = true := by
  obtain ⟨content, found⟩ := stored.filed
  exact isThereFile aims stored.located found

theorem storedWrites (aims : Aims root relative path) (stored : Stored tree current path)
    (content : ByteArray) :
    tree.write current path content = .ok (tree.put (path.destination current) (.file content)) := by
  obtain ⟨old, found⟩ := stored.filed
  rw [write, stored.located]
  simp [fileIff.mp found, aimsEndsOpen aims, aimsEndsActive aims, bind, Except.bind]

theorem writtenStored {content : ByteArray} {later : FileTree}
    (made : tree.opened current path = (.ok (), opened))
    (done : opened.write current path content = .ok later) :
    Stored later current path ∧ later.file? (path.destination current) = some content := by
  obtain ⟨located, rewritten⟩ := writeRewrites done
  have persists := rewrittenPersists rewritten
  have found : later.file? (path.destination current) = some content := by
    rw [fileIff, rewrittenEntry rewritten, if_pos rfl]
  exact ⟨⟨openedLater made persists, locatePersists persists located, content, found⟩, found⟩

def File.deposit (root : Path) (current : Location) (file : File) : Location × ByteArray :=
  ((Path.segments ⟨file.path⟩).reverse ++ root.destination current, file.content.toUTF8)

theorem aimsUnique {other : Path} (aims : Aims root relative path) (same : Aims root relative other) :
    other = path := by
  rw [aims.joined, same.joined]

def Seen (root : Path) (workspace : Workspace) (file : File) : Prop :=
  ∃ path, Aims root file.path path ∧ workspace.tree.isThere workspace.current path = true

def Kept (root : Path) (workspace : Workspace) (file : File) : Prop :=
  ∃ path, Aims root file.path path ∧ Stored workspace.tree workspace.current path

theorem seenFramed (framed : Framed root options files before after) (seen : Seen root before file) :
    Seen root after file := by
  obtain ⟨path, aims, there⟩ := seen
  exact ⟨path, aims, framed.current ▸ isTherePersists aims framed.persists there⟩

theorem keptFramed (framed : Framed root options files before after) (kept : Kept root before file) :
    Kept root after file := by
  obtain ⟨path, aims, stored⟩ := kept
  exact ⟨path, aims, framed.current ▸ storedPersists stored framed.persists⟩

/- What a file that went well leaves of itself. -/
inductive Leaves (root : Path) (options : WriteOptions) (file : File) (after : Workspace) :
    Outcome → Prop where
  | skipped {goal : Path} (unforced : options.force = false) (seen : Seen root after file) :
      Leaves root options file after (.skipped goal)
  | written {goal : Path} (kept : Kept root after file)
      (found : after.tree.file? (file.deposit root after.current).1 = some file.content.toUTF8) :
      Leaves root options file after (.written goal)

theorem goneLeaves {outcome : Outcome} (real : options.dryRun = false)
    (gone : Gone root options file before (.ok outcome) after) :
    Leaves root options file after outcome := by
  cases gone with
  | announced aims dry => exact absurd (real.symm.trans dry) Bool.false_ne_true
  | skipped aims real there spared => exact .skipped spared ⟨_, aims, there⟩
  | written aims real taken made done =>
    obtain ⟨stored, found⟩ := writtenStored made done
    rw [aimsDestination aims] at found
    exact .written ⟨_, aims, stored⟩ found

theorem keptSeen (kept : Kept root before file) : Seen root before file := by
  obtain ⟨path, aims, stored⟩ := kept
  exact ⟨path, aims, storedThere aims stored⟩

theorem leavesSeen {outcome : Outcome} (leaves : Leaves root options file after outcome) :
    Seen root after file := by
  cases leaves with
  | skipped unforced seen => exact seen
  | written kept found => exact keptSeen kept

/- A place that no later file goes to is left as it is. -/
theorem framedElsewhere (framed : Framed root options files before after) {location : Location}
    (apart : location ∉ (files.map (·.deposit root before.current)).map (·.1)) :
    after.tree.file? location = before.tree.file? location := by
  by_contra different
  obtain ⟨file, member, path, aims, goal⟩ := framed.changed location different
  rw [aimsDestination aims] at goal
  refine apart ?_
  rw [List.map_map, List.mem_map]
  exact ⟨file, member, goal.symm⟩

theorem ranSeen (ran : Ran root options files before (.ok report) after) (real : options.dryRun = false) :
    ∀ file ∈ files, Seen root after file := by
  generalize ended : (.ok report : Except Failure Report) = result at ran
  induction ran generalizing report with
  | done => simp
  | stopped gone => contradiction
  | @next file rest before outcome between result after gone ran ih =>
    cases result with
    | error failure => contradiction
    | ok others =>
      have first := seenFramed (ranFramed ran) (leavesSeen (goneLeaves real gone))
      exact List.forall_mem_cons.mpr ⟨first, ih rfl⟩

/-- After a run with force: each file can be written once more, and each place holds the last content
that came to it. -/
structure Rewritable (root : Path) (files : List File) (after : Workspace) : Prop where
  kept : ∀ file ∈ files, Kept root after file
  settled : after.tree.Settled (files.map (·.deposit root after.current))

theorem ranRewritable (ran : Ran root options files before (.ok report) after)
    (real : options.dryRun = false) (forced : options.force = true) : Rewritable root files after := by
  generalize ended : (.ok report : Except Failure Report) = result at ran
  induction ran generalizing report with
  | done => exact ⟨by simp, .nil⟩
  | stopped gone => contradiction
  | @next file rest before outcome between result after gone ran ih =>
    cases result with
    | error failure => contradiction
    | ok others =>
      have framed := ranFramed ran
      have later := ih rfl
      cases goneLeaves real gone with
      | skipped unforced seen => exact absurd (unforced.symm.trans forced) Bool.false_ne_true
      | written kept found =>
        refine ⟨List.forall_mem_cons.mpr ⟨keptFramed framed kept, later.kept⟩, ?_⟩
        by_cases again : (file.deposit root after.current).1 ∈
            (rest.map (·.deposit root after.current)).map (·.1)
        · exact .twice again later.settled
        · refine .last ?_ later.settled
          rw [framed.current] at again ⊢
          exact (framedElsewhere framed again).trans found

theorem goneSkips {result : Except Failure Outcome}
    (gone : Gone root options file before result after) (real : options.dryRun = false)
    (unforced : options.force = false) (seen : Seen root before file) :
    ∃ path, result = .ok (.skipped path) ∧ after.tree = before.tree ∧ after.current = before.current := by
  obtain ⟨goal, aimed, there⟩ := seen
  -- whoever takes the place has not seen the file
  have untaken : ∀ path, Aims root file.path path →
      ¬ (before.tree.isThere before.current path = false ∨ options.force = true) := by
    intro path aims taken
    rw [aimsUnique aimed aims, there, unforced] at taken
    simp at taken
  cases gone with
  | refused refused => cases (targetIff.mpr aimed).symm.trans refused
  | announced aims dry => exact absurd (real.symm.trans dry) Bool.false_ne_true
  | skipped => exact ⟨_, rfl, rfl, rfl⟩
  | closed context aims real taken => exact absurd taken (untaken _ aims)
  | unwritten context aims real taken => exact absurd taken (untaken _ aims)
  | written aims real taken => exact absurd taken (untaken _ aims)

theorem goneRewrites {result : Except Failure Outcome}
    (gone : Gone root options file before result after) (real : options.dryRun = false)
    (forced : options.force = true) (kept : Kept root before file) :
    ∃ path, result = .ok (.written path) ∧ after.tree =
      before.tree.put (file.deposit root before.current).1 (.file file.content.toUTF8) := by
  obtain ⟨goal, aimed, stored⟩ := kept
  have writes := storedWrites aimed stored file.content.toUTF8
  rw [aimsDestination aimed] at writes
  cases gone with
  | refused refused => cases (targetIff.mpr aimed).symm.trans refused
  | announced aims dry => exact absurd (real.symm.trans dry) Bool.false_ne_true
  | skipped aims real there spared => exact absurd (spared.symm.trans forced) Bool.false_ne_true
  | closed context aims real taken made =>
    rw [aimsUnique aimed aims] at made
    cases stored.opened.symm.trans made
  | unwritten context aims real taken made failed =>
    rw [aimsUnique aimed aims] at made failed
    cases stored.opened.symm.trans made
    cases writes.symm.trans failed
  | written aims real taken made done =>
    rw [aimsUnique aimed aims] at made done
    cases stored.opened.symm.trans made
    cases writes.symm.trans done
    exact ⟨_, rfl, rfl⟩

/- The same run over files that are all seen already. -/
theorem ranSkips {result : Except Failure Report} (ran : Ran root options files before result after)
    (real : options.dryRun = false) (unforced : options.force = false)
    (seen : ∀ file ∈ files, Seen root before file) :
    ∃ report, result = .ok report ∧ (∀ outcome ∈ report, outcome = .skipped outcome.path) ∧
      after.tree = before.tree := by
  induction ran with
  | done => exact ⟨[], rfl, by simp, rfl⟩
  | @stopped file rest before failure after gone =>
    obtain ⟨path, went, -⟩ := goneSkips gone real unforced (seen file List.mem_cons_self)
    contradiction
  | @next file rest before outcome between result after gone ran ih =>
    obtain ⟨path, went, same, place⟩ := goneSkips gone real unforced (seen file List.mem_cons_self)
    cases went
    obtain ⟨report, rfl, skips, kept⟩ := ih fun other member => by
      rw [Seen, same, place]
      exact seen other (List.mem_cons_of_mem _ member)
    exact ⟨.skipped path :: report, rfl, List.forall_mem_cons.mpr ⟨rfl, skips⟩, kept.trans same⟩

theorem ranRewrites {result : Except Failure Report} (ran : Ran root options files before result after)
    (real : options.dryRun = false) (forced : options.force = true)
    (kept : ∀ file ∈ files, Kept root before file) :
    ∃ report, result = .ok report ∧ (∀ outcome ∈ report, outcome = .written outcome.path) ∧
      after.tree = before.tree.putFiles (files.map (·.deposit root before.current)) := by
  induction ran with
  | done => exact ⟨[], rfl, by simp, rfl⟩
  | @stopped file rest before failure after gone =>
    obtain ⟨path, went, -⟩ := goneRewrites gone real forced (kept file List.mem_cons_self)
    contradiction
  | @next file rest before outcome between result after gone ran ih =>
    obtain ⟨path, went, put⟩ := goneRewrites gone real forced (kept file List.mem_cons_self)
    cases went
    have framed := goneFramed gone
    obtain ⟨report, rfl, writes, left⟩ := ih fun other member =>
      keptFramed framed (kept other (List.mem_cons_of_mem _ member))
    refine ⟨.written path :: report, rfl, List.forall_mem_cons.mpr ⟨rfl, writes⟩, ?_⟩
    rw [left, put, framed.current]
    rfl

theorem ranWrites (ran : Ran root options files before (.ok report) after) (real : options.dryRun = false)
    (forced : options.force = true) : ∀ outcome ∈ report, outcome = .written outcome.path := by
  generalize ended : (.ok report : Except Failure Report) = result at ran
  induction ran generalizing report with
  | done =>
    cases ended
    simp
  | stopped gone => contradiction
  | @next file rest before outcome between result after gone ran ih =>
    cases result with
    | error failure => contradiction
    | ok others =>
      cases ended
      refine List.forall_mem_cons.mpr ⟨?_, ih rfl⟩
      cases goneLeaves real gone with
      | skipped unforced seen => exact absurd (unforced.symm.trans forced) Bool.false_ne_true
      | written kept found => rfl

theorem reportPaths
    (reported : List.Forall₂ (fun file outcome => Aims root file.path outcome.path) files report) :
    files.map (fun file => target root file.path) = (report.map Outcome.path).map .ok := by
  induction reported with
  | nil => rfl
  | cons aims tail ih => rw [List.map_cons, List.map_cons, List.map_cons, targetIff.mpr aims, ih]

theorem reportAlike {kind : Path → Outcome} (each : ∀ outcome ∈ report, outcome = kind outcome.path) :
    report = (report.map Outcome.path).map kind := by
  rw [List.map_map]
  exact (List.map_id report).symm.trans (List.map_congr_left each)

structure Repeats (project : Project) (root : Path) (options : WriteOptions) (report : Report)
    (between : Workspace) (second : Report) (after : Workspace) : Prop where
  tree : after.tree = between.tree
  skips : options.force = false → second.written = [] ∧
    second.skipped.map .ok = project.resolved.map fun file => target root file.path
  writes : options.force = true → second = report

theorem projectRepeats {project : Project} (real : options.dryRun = false)
    (went : ((writeProject project root options).on before).1 = .ok report) :
    ∃ second after,
      (writeProject project root options).on ((writeProject project root options).on before).2 =
        (.ok second, after) ∧
      Repeats project root options report ((writeProject project root options).on before).2 second
        after := by
  obtain ⟨left, events, ran, same⟩ := projectRuns project root options before
  rw [same]
  rw [went] at ran
  obtain ⟨final, later, again, ends⟩ :=
    projectRuns project root options { left with events := events }
  cases force : options.force with
  | false =>
    have seen := ranSeen ran real
    obtain ⟨second, ok, skips, tree⟩ := ranSkips again real force seen
    rw [ok] at again
    refine ⟨second, _, Prod.ext ok ends, tree, fun _ => ?_,
      fun forced => absurd (force.symm.trans forced) Bool.false_ne_true⟩
    rw [reportPaths (ranReported again), reportAlike skips]
    simp [Report.written, Report.skipped, Outcome.written?, Outcome.skipped?, Function.comp_def,
      Outcome.path]
  | true =>
    have rewritable := ranRewritable ran real force
    have kept := rewritable.kept
    obtain ⟨second, ok, writes, tree⟩ := ranRewrites again real force kept
    rw [ok] at again
    refine ⟨second, _, Prod.ext ok ends, tree.trans (settledPutFiles rewritable.settled),
      fun unforced => absurd (unforced.symm.trans force) Bool.false_ne_true, fun _ => ?_⟩
    have paths := (reportPaths (ranReported again)).symm.trans (reportPaths (ranReported ran))
    have paths := List.map_injective_iff.mpr (fun _ _ => Except.ok.inj) paths
    rw [reportAlike writes, paths, ← reportAlike (ranWrites ran real force)]

/- Two of the files share a place, and the root steps back from a directory that is made on the way. -/
def drafts : Project where
  files := [⟨"plans/may.md", "first"⟩, ⟨"notes.md", "generated"⟩, ⟨"./plans//may.md", "second"⟩]
  warnings := []

theorem draftsRepeat : ∃ second after,
    (writeProject drafts ⟨"missing/.."⟩ { force := true }).on
      ((writeProject drafts ⟨"missing/.."⟩ { force := true }).on desk).2 = (.ok second, after) ∧
    second.written = [⟨"missing/../plans/may.md"⟩, ⟨"missing/../notes.md"⟩, ⟨"missing/../plans/may.md"⟩] ∧
    after.tree.file? ["may.md", "plans"] = some "second".toUTF8 := by
  have went : ((writeProject drafts ⟨"missing/.."⟩ { force := true }).on desk).1 =
      .ok [.written ⟨"missing/../plans/may.md"⟩, .written ⟨"missing/../notes.md"⟩,
        .written ⟨"missing/../plans/may.md"⟩] := by decide +kernel
  obtain ⟨second, after, again, repeats⟩ := projectRepeats rfl went
  refine ⟨second, after, again, ?_, ?_⟩
  · rw [repeats.writes rfl]
    decide
  · rw [repeats.tree]
    decide +kernel

end Scaffold
