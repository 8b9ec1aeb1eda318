import Mathlib.Data.List.Forall2
import Scaffold.Proofs.Run.Session
import Scaffold.Run.Writing

/-!
Files written below a root, one after another: every way in which one of them goes, and what all of
them together leave as it was.
-/
namespace Scaffold

structure Aims (root : Path) (relative : String) (path : Path) : Prop where
  below : ".." ∉ Path.segments ⟨relative⟩
  some : Path.segments ⟨relative⟩ ≠ []
  joined : path = root.pushAll (Path.segments ⟨relative⟩)

section

variable {root path : Path} {relative : String}

theorem targetIff :
    target root relative = .ok path ↔ Aims root relative path := by
  unfold target
  constructor
  · intro found
    simp only at found
    split at found
    · contradiction
    · rename_i below
      split at found
      · contradiction
      · rename_i some
        cases found
        exact ⟨by simpa using below, by simpa using some, rfl⟩
  · rintro ⟨below, some, rfl⟩
    simp [below, some, Path.pushAll]

theorem namesSegments {path : Path} : ∀ name ∈ path.segments, Path.IsSegment name :=
  fun _ member => (Path.memSegments.mp member).2

theorem aimsSegments (aims : Aims root relative path) :
    path.segments = root.segments ++ Path.segments ⟨relative⟩ := by
  rw [aims.joined, Path.pushAllSegments namesSegments]

theorem aimsOrigin (aims : Aims root relative path) (current : Location) :
    FileTree.origin current path = FileTree.origin current root := by
  unfold FileTree.origin
  rw [aims.joined, Path.pushAllAbsolute namesSegments]

theorem aimsDestination (aims : Aims root relative path) (current : Location) :
    path.destination current =
      (Path.segments ⟨relative⟩).reverse ++ root.destination current := by
  rw [Path.destination, aimsOrigin aims, aimsSegments aims, List.foldl_append,
    FileTree.stepsBelow aims.below, Path.destination]

theorem aimsEndsActive (aims : Aims root relative path) : path.endsIdle = false := by
  rw [aims.joined, Path.pushAllLast aims.some]
  exact Path.pushEndsActive (namesSegments _ (List.getLast_mem _))

end

def FileTree.opened (tree : FileTree) (current : Location) (path : Path) :
    Except FileFault Unit × FileTree :=
  match path.parent? with
  | some parent => tree.makeDirectories current parent
  | none => (.ok (), tree)

/- Every way in which one file goes. A failure leaves the directories that were made before it. -/
inductive Gone (root : Path) (options : WriteOptions) (file : File) (before : Workspace) :
    Except Failure Outcome → Workspace → Prop where
  | refused {refusal} (refused : target root file.path = .error refusal) :
      Gone root options file before (.error { contexts := [refusal.message] }) before
  | announced {path} (aims : Aims root file.path path) (dry : options.dryRun = true) :
      Gone root options file before (.ok (.written path))
        { before with printed := before.printed ++ ["📝 Would write " ++ path.text] }
  | skipped {path} (aims : Aims root file.path path) (real : options.dryRun = false)
      (there : before.tree.isThere before.current path = true) (spared : options.force = false) :
      Gone root options file before (.ok (.skipped path))
        { before with printed := before.printed ++ ["⚠️  Skipping existing file: " ++ path.text] }
  | closed {path fault tree} (context : String) (aims : Aims root file.path path)
      (real : options.dryRun = false)
      (taken : before.tree.isThere before.current path = false ∨ options.force = true)
      (opened : before.tree.opened before.current path = (.error fault, tree)) :
      Gone root options file before (.error (.ofCause context (.file fault)))
        { before with tree := tree }
  | unwritten {path fault tree} (context : String) (aims : Aims root file.path path)
      (real : options.dryRun = false)
      (taken : before.tree.isThere before.current path = false ∨ options.force = true)
      (opened : before.tree.opened before.current path = (.ok (), tree))
      (failed : tree.write before.current path file.content.toUTF8 = .error fault) :
      Gone root options file before (.error (.ofCause context (.file fault)))
        { before with tree := tree }
  | written {path tree after} (aims : Aims root file.path path) (real : options.dryRun = false)
      (taken : before.tree.isThere before.current path = false ∨ options.force = true)
      (opened : before.tree.opened before.current path = (.ok (), tree))
      (done : tree.write before.current path file.content.toUTF8 = .ok after) :
      Gone root options file before (.ok (.written path))
        { before with tree := after, printed := before.printed ++ ["✅ Generated " ++ path.text] }

theorem fileGoes (root : Path) (options : WriteOptions) (file : File) (before : Workspace) :
    Gone root options file before ((writeFile root options file).on before).1
      ((writeFile root options file).on before).2 := by
  unfold writeFile
  cases goal : target root file.path with
  | error refusal => exact .refused goal
  | ok path =>
    have aims := targetIff.mp goal
    cases dry : options.dryRun with
    | true => exact .announced aims dry
    | false =>
      simp only [Bool.false_eq_true, if_false, Task.onBind, Task.onIsThere]
      by_cases there : (before.tree.isThere before.current path && !options.force) = true
      · simp only [there, if_true, Task.onBind, Task.onPrint, Task.onPure]
        rw [Bool.and_eq_true, Bool.not_eq_true'] at there
        exact .skipped aims dry there.1 there.2
      · simp only [there, Bool.false_eq_true, if_false]
        have taken : before.tree.isThere before.current path = false ∨ options.force = true := by
          simpa [Classical.or_iff_not_imp_left] using there
        have opening : before.tree.opened before.current path = match path.parent? with
          | some parent => before.tree.makeDirectories before.current parent
          | none => (.ok (), before.tree) := rfl
        cases above : path.parent? with
        | none =>
          rw [above] at opening
          simp only [Task.onBind, Task.onPure, Task.onWrite, Task.onPrint]
          cases done : before.tree.write before.current path file.content.toUTF8 with
          | error fault => exact .unwritten _ aims dry taken opening done
          | ok after => exact .written aims dry taken opening done
        | some parent =>
          rw [above] at opening
          simp only [Task.onBind, Task.onPure, Task.onMake, Task.onWrite, Task.onPrint]
          rcases made : before.tree.makeDirectories before.current parent with ⟨fault | ⟨⟩, tree⟩
          · exact .closed _ aims dry taken (opening.trans made)
          · cases done : tree.write before.current path file.content.toUTF8 with
            | error fault =>
              simp only [done]
              exact .unwritten _ aims dry taken (opening.trans made) done
            | ok after =>
              simp only [done]
              exact .written aims dry taken (opening.trans made) done

/- Files one after another, up to the first that fails. -/
inductive Ran (root : Path) (options : WriteOptions) :
    List File → Workspace → Except Failure Report → Workspace → Prop where
  | done {before} : Ran root options [] before (.ok []) before
  | stopped {file rest before failure after}
      (gone : Gone root options file before (.error failure) after) :
      Ran root options (file :: rest) before (.error failure) after
  | next {file rest before outcome between result after}
      (gone : Gone root options file before (.ok outcome) between)
      (ran : Ran root options rest between result after) :
      Ran root options (file :: rest) before (result.map (outcome :: ·)) after

theorem filesRun (root : Path) (options : WriteOptions) (files : List File) (before : Workspace) :
    Ran root options files before ((writeFiles root options files).on before).1
      ((writeFiles root options files).on before).2 := by
  induction files generalizing before with
  | nil => exact .done
  | cons file rest ih =>
    have gone := fileGoes root options file before
    rw [writeFiles, Task.onBind]
    rcases went : (writeFile root options file).on before with ⟨failure | outcome, between⟩
    · rw [went] at gone
      exact .stopped gone
    · rw [went] at gone
      have ran := Ran.next gone (ih between)
      simp only [Task.onBind]
      rcases went : (writeFiles root options rest).on between with ⟨_ | _, _⟩ <;>
        rw [went] at ran <;> exact ran

/- A project is its files, and an event when all of them went well. -/
theorem projectRuns (project : Project) (root : Path) (options : WriteOptions) (before : Workspace) :
    ∃ after events, Ran root options project.resolved before
        ((writeProject project root options).on before).1 after ∧
      ((writeProject project root options).on before).2 = { after with events := events } := by
  have ran := filesRun root options project.resolved before
  rw [writeProject, Task.onBind]
  rcases went : (writeFiles root options project.resolved).on before with ⟨_ | _, after⟩ <;>
    rw [went] at ran <;> exact ⟨after, _, ran, rfl⟩

end Scaffold
