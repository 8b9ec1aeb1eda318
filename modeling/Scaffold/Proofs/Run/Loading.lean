import Scaffold.CommandLine.Run
import Scaffold.Proofs.Run.Session

/-!
Backends and settings are loaded without a trace other than events: no file changes, and nothing is
printed.
-/
namespace Scaffold

namespace Task

variable {α β : Type}

def Quiet (task : Task Session α) : Prop :=
  ∀ workspace, ∃ events, (task.on workspace).2 = { workspace with events := events }

theorem quietPure (value : α) : Quiet (pure value) :=
  fun workspace => ⟨workspace.events, rfl⟩

theorem quietThrow (failure : Failure) : Quiet (throw failure : Task Session α) :=
  fun workspace => ⟨workspace.events, rfl⟩

theorem quietNote (event : Log.Event) : Quiet (note event) :=
  fun _ => ⟨_, rfl⟩

theorem quietIsThere (path : Path) : Quiet (isThere path) :=
  fun workspace => ⟨workspace.events, rfl⟩

theorem quietBind {task : Task Session α} {next : α → Task Session β} (first : Quiet task)
    (later : ∀ value, Quiet (next value)) : Quiet (task >>= next) := by
  intro workspace
  obtain ⟨events, left⟩ := first workspace
  refine bindLeaves (fun after => ∃ events, after = { workspace with events := events })
    (fun failure between went => ?_) fun value between went => ?_ <;> rw [went] at left
  · exact ⟨events, left⟩
  · cases left
    exact later value _

theorem quietRead (context : String) (path : Path) : Quiet (attempt context (Host.read path)) := by
  intro workspace
  refine ⟨workspace.events, ?_⟩
  have carried : StateT.run (m := Id) (Host.read path : Session _) workspace =
      (workspace.tree.read workspace.current path, workspace) := rfl
  rw [onAttempt, carried]
  cases workspace.tree.read workspace.current path <;> rfl

theorem quietReadText (context : String) (path : Path) : Quiet (readText context path) := by
  refine quietBind (quietRead context path) fun content => ?_
  split
  · exact quietPure _
  · exact quietThrow _

end Task

open Scaffold.Task

theorem loadBackendQuiet (path : Path) : Quiet (loadBackend path) := by
  refine quietBind (quietReadText _ path) fun text => ?_
  split
  · exact quietBind (quietNote _) fun _ => quietPure _
  · exact quietThrow _

theorem sourceQuiet (source : Source) : Quiet source.load := by
  cases source with
  | file path => exact loadBackendQuiet path
  | prompt text => exact quietBind (quietNote _) fun _ => quietPure _

namespace Config

theorem loadFileQuiet (path : Path) : Quiet (loadFile path) := by
  refine quietBind (quietIsThere path) fun there => ?_
  split
  · exact quietPure _
  · refine quietBind (quietReadText _ path) fun text => ?_
    split
    · exact quietPure _
    · exact quietThrow _

theorem besideQuiet (input : Path) : Quiet (beside input) := by
  unfold beside
  split
  · exact quietPure _
  · refine quietBind (quietIsThere _) fun there => ?_
    split <;> exact quietPure _

theorem selectQuiet (explicit input : Option Path) : Quiet (select explicit input) := by
  unfold select
  split
  · refine quietBind (quietIsThere _) fun there => ?_
    split
    · exact quietPure _
    · exact quietThrow _
  · split
    · exact besideQuiet _
    · exact quietPure _

theorem loadQuiet (environment : Environment) (explicit input : Option Path) :
    Quiet (load environment explicit input) := by
  unfold load
  refine quietBind (selectQuiet explicit input) fun selected => ?_
  cases stray : strayOrder environment with
  | none =>
    cases selected with
    | none => exact quietBind (quietPure _) fun _ => quietPure _
    | some path =>
      exact quietBind (quietNote _) fun _ => quietBind (loadFileQuiet path) fun _ =>
        quietBind (quietPure _) fun _ => quietPure _
  | some raw =>
    cases selected with
    | none => exact quietBind (quietPure _) fun _ => quietBind (quietNote _) fun _ => quietPure _
    | some path =>
      exact quietBind (quietNote _) fun _ => quietBind (loadFileQuiet path) fun _ =>
        quietBind (quietPure _) fun _ => quietBind (quietNote _) fun _ => quietPure _

end Config

namespace CommandLine

theorem resolveQuiet (environment : Environment) (source : Source) (config : Option Path)
    (order : Option Migration.Order) (packageName : Option String) :
    Quiet (resolveConfig environment source config order packageName) :=
  quietBind (Config.loadQuiet environment config source.path?) fun _ => quietPure _

end CommandLine
end Scaffold
