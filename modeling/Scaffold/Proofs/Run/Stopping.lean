import Scaffold.Proofs.Project.Resolution
import Scaffold.Proofs.Run.Rewriting

/-!
A run that fails. The files before the failing one have been written as if they were the whole project, the
failing one changes no file, and those after it play no part.
-/
namespace Scaffold
open FileTree

variable {root : Path} {options : WriteOptions} {file : File} {files front : List File}
  {before between after : Workspace} {report : Report} {failure : Failure} {project : Project}

/- A failing file may leave directories behind, but every file is as it was. -/
theorem goneFailed (gone : Gone root options file before (.error failure) after) (location : Location) :
    after.tree.file? location = before.tree.file? location := by
  cases gone with
  | refused => rfl
  | closed _ _ _ _ opens | unwritten _ _ _ _ opens => exact grownFile (openedGrown opens) location

def refusalTold (path : String) : String :=
  if ".." ∈ Path.segments ⟨path⟩ then "Refusing to write outside the output directory: " ++ path
  else "Empty output path"

theorem messageTold {path : String} {refusal : Refusal} (refused : target root path = .error refusal) :
    refusal.message = refusalTold path := by
  unfold target at refused
  unfold refusalTold
  simp only [List.contains_iff_mem] at refused
  split at refused
  · next leaves =>
    cases refused
    exact (if_pos leaves).symm
  · next stays =>
    rw [if_neg stays]
    split at refused
    · cases refused
      rfl
    · contradiction

theorem goneRefused {refusal : Refusal} (refused : target root file.path = .error refusal)
    (gone : Gone root options file before (.error failure) after) :
    failure = { contexts := [refusalTold file.path] } ∧ after = before := by
  cases gone with
  | refused other =>
    cases other.symm.trans refused
    exact ⟨by rw [messageTold refused], rfl⟩
  | closed _ aims | unwritten _ aims =>
    cases (targetIff.mpr aims).symm.trans refused

/- The files before this one go well, and then it fails. -/
structure Stops (root : Path) (options : WriteOptions) (front : List File) (file : File)
    (before between : Workspace) (failure : Failure) (after : Workspace) : Prop where
  went : ∃ report, (writeFiles root options front).on before = (.ok report, between) ∧
    report.length = front.length
  stuck : (writeFile root options file).on between = (.error failure, after)

theorem filesStop (failed : (writeFiles root options files).on before = (.error failure, after)) :
    ∃ front file rest between, files = front ++ file :: rest ∧
      Stops root options front file before between failure after := by
  induction files generalizing before with
  | nil => cases failed
  | cons first others ih =>
    rw [writeFiles] at failed
    rcases Task.onBindError.mp failed with stuck | ⟨outcome, next, step, failed⟩
    · exact ⟨[], first, others, before, rfl, ⟨[], rfl, rfl⟩, stuck⟩
    rcases Task.onBindError.mp failed with failed | ⟨report, last, -, ended⟩
    · obtain ⟨front, file, rest, between, split, ⟨report, went, length⟩, stuck⟩ := ih failed
      have whole : (writeFiles root options (first :: front)).on before = (.ok (outcome :: report), between) := by
        rw [writeFiles]
        exact Task.onBindOk.mpr ⟨outcome, next, step, Task.onBindOk.mpr ⟨report, between, went, rfl⟩⟩
      exact ⟨first :: front, file, rest, between, congrArg (first :: ·) split,
        ⟨_, whole, congrArg (· + 1) length⟩, stuck⟩
    · cases ended

/- Whatever comes after the failing file, the run ends there. -/
theorem stopsAnyway (stops : Stops root options front file before between failure after)
    (rest : List File) :
    (writeFiles root options (front ++ file :: rest)).on before = (.error failure, after) := by
  obtain ⟨⟨report, went, -⟩, stuck⟩ := stops
  induction front generalizing before report with
  | nil =>
    cases went
    rw [List.nil_append, writeFiles]
    exact Task.onBindError.mpr (.inl stuck)
  | cons first front ih =>
    rw [writeFiles] at went
    obtain ⟨outcome, next, step, went⟩ := Task.onBindOk.mp went
    obtain ⟨others, last, went, ended⟩ := Task.onBindOk.mp went
    cases ended
    rw [List.cons_append, writeFiles]
    exact Task.onBindError.mpr (.inr ⟨outcome, next, step, Task.onBindError.mpr (.inl (ih others went))⟩)

/- What follows the files never fails. -/
theorem projectFailed : (writeProject project root options).on before = (.error failure, after) ↔
    (writeFiles root options project.resolved).on before = (.error failure, after) := by
  rw [writeProject, Task.onBindError]
  apply or_iff_left
  intro later
  obtain ⟨report, between, -, ended⟩ := later
  cases ended

theorem onProjectOk (went : (writeFiles root options project.resolved).on before = (.ok report, between)) :
    ∃ events, (writeProject project root options).on before =
      (.ok report, { between with events := events }) := by
  rw [writeProject, Task.onNext went]
  exact ⟨_, rfl⟩

def Project.cut (project : Project) (count : Nat) : Project :=
  { project with files := project.resolved.take count }

theorem cutResolved (project : Project) (count : Nat) :
    (project.cut count).resolved = project.resolved.take count := by
  have once : ((project.resolved.take count).map (·.path)).Nodup := by
    rw [List.map_take]
    exact (resolvedOnce project.files).sublist (List.take_sublist _ _)
  exact resolveDistinct once

structure CutShort (project : Project) (root : Path) (options : WriteOptions) (before : Workspace)
    (count : Nat) (file : File) (failure : Failure) (after : Workspace) : Prop where
  listed : project.resolved[count]? = some file
  shorter : ∃ report, ((writeProject (project.cut count) root options).on before).1 = .ok report ∧
    report.length = count
  longer : ∀ more, count < more →
    (writeProject (project.cut more) root options).on before = (.error failure, after)
  files : ∀ location, after.tree.file? location =
    ((writeProject (project.cut count) root options).on before).2.tree.file? location
  changed : ∀ location, after.tree.file? location ≠ before.tree.file? location →
    ∃ earlier ∈ project.resolved.take count, location = (earlier.deposit root before.current).1
  refused : ∀ refusal, target root file.path = .error refusal →
    failure = { contexts := [refusalTold file.path] } ∧
      after.tree = ((writeProject (project.cut count) root options).on before).2.tree

section Split
variable {rest : List File} (split : project.resolved = front ++ file :: rest)
include split

theorem cutBefore : (project.cut front.length).resolved = front := by
  rw [cutResolved, split, List.take_left]

theorem cutBehind {more : Nat} (beyond : front.length < more) :
    ∃ others, (project.cut more).resolved = front ++ file :: others := by
  obtain ⟨extra, rfl⟩ := Nat.exists_eq_add_of_lt beyond
  refine ⟨rest.take extra, ?_⟩
  rw [cutResolved, split, Nat.add_assoc, List.take_length_add_append, List.take_succ_cons]

theorem listedThere : project.resolved[front.length]? = some file := by
  rw [split, List.getElem?_append_right (Nat.le_refl _), Nat.sub_self, List.getElem?_cons_zero]

end Split

theorem cutChanges {count : Nat} {location : Location}
    (changed : ((writeProject (project.cut count) root options).on before).2.tree.file? location ≠
      before.tree.file? location) :
    ∃ earlier ∈ project.resolved.take count, location = (earlier.deposit root before.current).1 := by
  obtain ⟨earlier, member, path, aims, goal⟩ :=
    (projectFramed (project.cut count) root options before).changed location changed
  rw [cutResolved] at member
  exact ⟨earlier, member, goal.trans (aimsDestination aims before.current)⟩

theorem failureKeepsPrefix (failed : ((writeProject project root options).on before).1 = .error failure) :
    ∃ count file, CutShort project root options before count file failure
      ((writeProject project root options).on before).2 := by
  rcases run : (writeProject project root options).on before with ⟨result, after⟩
  rw [run] at failed
  cases failed
  obtain ⟨front, file, rest, between, split, stops⟩ := filesStop (projectFailed.mp run)
  obtain ⟨report, went, length⟩ := stops.went
  rw [← cutBefore split] at went
  obtain ⟨events, ends⟩ := onProjectOk went
  have gone := fileGoes root options file between
  rw [stops.stuck] at gone
  have files : ∀ location, after.tree.file? location =
      ((writeProject (project.cut front.length) root options).on before).2.tree.file? location := by
    intro location
    rw [ends, goneFailed gone location]
  refine ⟨front.length, file, listedThere split, ⟨report, by rw [ends], length⟩, ?_, files, ?_, ?_⟩
  · intro more beyond
    obtain ⟨others, kept⟩ := cutBehind split beyond
    exact projectFailed.mpr (kept ▸ stopsAnyway stops others)
  · intro location different
    rw [files] at different
    exact cutChanges different
  · intro refusal refused
    obtain ⟨told, same⟩ := goneRefused refused gone
    rw [ends]
    exact ⟨told, by rw [same]⟩

/- A note stands where the second file needs a directory. -/
def cramped : Project where
  files := [⟨"plans/may.md", "first"⟩, ⟨"notes.md/june.md", "second"⟩, ⟨"plans/july.md", "third"⟩]
  warnings := []

theorem crampedKeepsPrefix :
    (∃ count file, CutShort cramped ⟨"."⟩ { force := true } desk count file
      ⟨["Failed to create directory ./notes.md"], some (.file .alreadyThere)⟩
      ((writeProject cramped ⟨"."⟩ { force := true }).on desk).2) ∧
    ((writeProject cramped ⟨"."⟩ { force := true }).on desk).2.tree.file? ["may.md", "plans"] =
      some "first".toUTF8 ∧
    ((writeProject cramped ⟨"."⟩ { force := true }).on desk).2.tree.file? ["july.md", "plans"] = none :=
  ⟨failureKeepsPrefix (by decide +kernel), by decide +kernel, by decide +kernel⟩

end Scaffold
