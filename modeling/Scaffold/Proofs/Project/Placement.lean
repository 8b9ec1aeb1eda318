import Scaffold.Backend.Sample
import Scaffold.Proofs.Project.Paths
import Scaffold.Proofs.Run.EmptyRoot

/-!
A project written below any root: every path is accepted, each has a place of its own, and no file is
in the way of another.
-/
namespace Scaffold
open FileTree

structure SafePaths (paths : List String) : Prop where
  plain : ∀ path ∈ paths, Path.Plain ⟨path⟩
  accepted : ∀ path ∈ paths, ∀ root, ∃ goal, target root path = .ok goal ∧
    goal.text = root.lead ++ path
  distinct : ∀ left ∈ paths, ∀ right ∈ paths, ∀ root first second,
    target root left = .ok first → target root right = .ok second →
      first.segments = second.segments → left = right
  apart : ∀ left ∈ paths, ∀ right ∈ paths,
    Path.pieces ⟨left⟩ <+: Path.pieces ⟨right⟩ → left = right

/-- Writing a project ends early only by a fault of the file system, and not by one that the project
brings about: the place of a file is no other's directory, and with nothing in its way once the root
is there, each file is put there. -/
structure SafelyWritten (project : Project) (root : Path) (options : WriteOptions)
    (before : Workspace) : Prop where
  unrefused : ∀ failure, ((writeProject project root options).on before).1 = .error failure →
    ∃ context fault, failure = ⟨[context], some (.file fault)⟩
  separate : ∀ file ∈ project.files, ∀ other ∈ project.files, ∀ first second,
    target root file.path = .ok first → target root other.path = .ok second →
      first.destination before.current <:+ second.destination before.current →
        file.path = other.path
  through : ∀ opened, Opens before root opened →
    (∀ file ∈ project.resolved,
      Clear opened (root.destination before.current) (Path.pieces ⟨file.path⟩)) →
    ∃ report, ((writeProject project root options).on before).1 = .ok report

variable {root first second : Path} {options : WriteOptions} {before after : Workspace}
  {left right : String}

theorem placesApart (leftAims : Aims root left first) (rightAims : Aims root right second)
    {current : Location} (above : first.destination current <:+ second.destination current) :
    Path.segments ⟨left⟩ <+: Path.segments ⟨right⟩ := by
  rw [aimsDestination leftAims, aimsDestination rightAims] at above
  exact List.reverse_suffix.mp ((List.suffix_append_self_iff).mp above)

theorem ranUnrefused {files : List File} {failure : Failure}
    (plain : ∀ file ∈ files, Path.Plain ⟨file.path⟩)
    (ran : Ran root options files before (.error failure) after) :
    ∃ context fault, failure = ⟨[context], some (.file fault)⟩ := by
  generalize ended : (.error failure : Except Failure Report) = result at ran
  induction ran with
  | done => contradiction
  | @stopped file _ _ _ _ gone =>
    cases ended
    cases gone with
    | refused refused =>
      exact absurd refused (plainUnrefused (plain file List.mem_cons_self) root _)
    | closed | unwritten => exact ⟨_, _, rfl⟩
  | @next _ _ _ _ _ result _ _ _ ih =>
    cases result with
    | ok report => contradiction
    | error other =>
      cases ended
      exact ih (fun file member => plain file (List.mem_cons_of_mem _ member)) rfl

namespace Project

variable {backend : Backend} {config : Config} {file : File}

theorem resolvedEmitted (member : file ∈ (generate backend config).resolved) :
    file ∈ emitted backend config :=
  (lastAtPath (memResolve.mp member)).2

theorem emittedSafe (backend : Backend) (config : Config) :
    SafePaths ((generate backend config).files.map (·.path)) where
  plain := List.forall_mem_map.mpr fun _ => emittedPlain
  accepted := List.forall_mem_map.mpr fun _ member root =>
    have aims := plainAims (emittedPlain member) root
    ⟨_, targetIff.mpr aims, aimsText (emittedPlain member) aims⟩
  distinct := by
    simp only [List.forall_mem_map]
    intro file member other present root first second leftGoal rightGoal same
    rw [aimsSegments (targetIff.mp leftGoal), aimsSegments (targetIff.mp rightGoal),
      List.append_cancel_left_eq, Path.plainSegments (emittedPlain member),
      Path.plainSegments (emittedPlain present)] at same
    exact congrArg Path.text (Path.piecesInjective same)
  apart := by
    simp only [List.forall_mem_map]
    exact fun file member other present => emittedApart member present

theorem resolvedPlaceable (backend : Backend) (config : Config) :
    Placeable (generate backend config).resolved := by
  refine ⟨fun file member => emittedPlain (resolvedEmitted member),
    fun file member => emittedWhole (resolvedEmitted member), ?_⟩
  have once := List.pairwise_map.mp (resolvedOnce (generate backend config).files)
  refine once.imp_of_mem fun {file other} left right different => ?_
  have left := resolvedEmitted left
  have right := resolvedEmitted right
  rw [Path.plainSegments (emittedPlain left), Path.plainSegments (emittedPlain right)]
  exact ⟨fun begins => different (emittedApart left right begins),
    fun begins => different (emittedApart right left begins).symm⟩

theorem generatedWritten (backend : Backend) (config : Config) (root : Path)
    (options : WriteOptions) (before : Workspace) :
    SafelyWritten (generate backend config) root options before := by
  have placeable := resolvedPlaceable backend config
  obtain ⟨after, events, ran, -⟩ := projectRuns (generate backend config) root options before
  refine ⟨fun failure ended => ?_, ?_, fun opened opens clear => ?_⟩
  · rw [ended] at ran
    exact ranUnrefused placeable.plain ran
  · intro file member other present first second leftGoal rightGoal above
    have begins := placesApart (targetIff.mp leftGoal) (targetIff.mp rightGoal) above
    rw [Path.plainSegments (emittedPlain member),
      Path.plainSegments (emittedPlain present)] at begins
    exact emittedApart member present begins
  · refine ranLands ran placeable opens fun file member => ?_
    rw [Path.plainSegments (placeable.plain file member)]
    exact clear file member

theorem generatedPathsSafe (backend : Backend) (config : Config) :
    SafePaths ((generate backend config).files.map (·.path)) ∧
      ∀ root options before, SafelyWritten (generate backend config) root options before :=
  ⟨emittedSafe backend config, generatedWritten backend config⟩

theorem sampleReceived :
    ∃ report, ((writeProject (generate Sample.backend {}) ⟨"out"⟩ {}).on {}).1 = .ok report := by
  have written := (generatedPathsSafe Sample.backend {}).2 ⟨"out"⟩ {} {}
  refine written.through _ outOpens fun file member => ?_
  have plain := emittedPlain (resolvedEmitted member)
  rw [← Path.plainSegments plain]
  exact freshClear (bareFresh outBare (Path.plainSome plain) (Path.plainBelow plain))

end Project
end Scaffold
