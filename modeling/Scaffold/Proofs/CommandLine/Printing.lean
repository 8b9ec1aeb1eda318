import Scaffold.Proofs.Project.Placement
import Scaffold.Proofs.Run.Loading

/-!
What an inspection prints, and what a generation that writes nothing announces: a line for each
resolved file, in order, then the warnings.
-/
namespace Scaffold

def Project.contents (project : Project) : List (String × ByteArray) :=
  project.resolved.map fun file => (file.path, file.content.toUTF8)

section

variable {root : Path} {options : WriteOptions} {files : List File} {before after : Workspace}
  {result : Except Failure Report}

end

namespace CommandLine
open Scaffold.Task
open Text (contains containsBetween containsLeft containsRight containsSelf)

theorem onPrintAll (lines : List String) (workspace : Workspace) :
    (printAll lines : Task Session Unit).on workspace =
      (.ok (), { workspace with printed := workspace.printed ++ lines }) := by
  induction lines generalizing workspace with
  | nil => simp [printAll]
  | cons line lines ih =>
    have first : (printAll (line :: lines) : Task Session Unit) =
        Task.print line >>= fun _ => printAll lines := rfl
    rw [first, onBind, onPrint]
    simp only [ih, List.append_assoc]
    rfl

theorem onNoteAll (events : List Log.Event) (workspace : Workspace) :
    (events.forM note : Task Session Unit).on workspace =
      (.ok (), { workspace with events := workspace.events ++ events }) := by
  induction events generalizing workspace with
  | nil => simp
  | cons event events ih =>
    have first : ((event :: events).forM note : Task Session Unit) =
        note event >>= fun _ => events.forM note := rfl
    rw [first, onBind, onNote]
    simp only [ih, List.append_assoc]
    rfl

theorem onGenerate (backend : Backend) (config : Config) (workspace : Workspace) :
    ∃ events, (generateNoting backend config).on workspace =
      (.ok (Scaffold.generate backend config), { workspace with events := events }) := by
  refine ⟨workspace.events ++ generationEvents backend (Scaffold.generate backend config), ?_⟩
  rw [generateNoting, onBind, onNoteAll]
  rfl

structure Told (before : Workspace) (lines : List String) (after : Workspace) : Prop where
  tree : after.tree = before.tree
  current : after.current = before.current
  printed : after.printed = before.printed ++ lines

theorem toldQuiet {α : Type} {task : Task Session α} {before after : Workspace}
    {result : Except Failure α} (quiet : Quiet task) (went : task.on before = (result, after)) :
    Told before [] after := by
  obtain ⟨events, left⟩ := quiet before
  rw [went] at left
  cases left
  exact ⟨rfl, rfl, (List.append_nil _).symm⟩

theorem toldAppend {before between after : Workspace} {first second : List String}
    (left : Told before first between) (right : Told between second after) :
    Told before (first ++ second) after where
  tree := right.tree.trans left.tree
  current := right.current.trans left.current
  printed := by rw [right.printed, left.printed, List.append_assoc]

theorem toldNext {before between after : Workspace} {lines : List String}
    (left : Told before [] between) (right : Told between lines after) : Told before lines after :=
  toldAppend left right

def warned (warning : Warning) : String :=
  "⚠️  [" ++ warning.kind ++ "] " ++ warning.message

variable {environment : Environment} {source : Source} {file : Option Path}
  {order : Option Migration.Order} {packageName : Option String} {backend : Backend}
  {config : Config} {before between settled : Workspace}

theorem generateTells (backend : Backend) (config : Config) (before : Workspace) :
    ∃ after, (generateNoting backend config).on before = (.ok (Scaffold.generate backend config), after) ∧
      Told before [] after := by
  obtain ⟨events, went⟩ := onGenerate backend config before
  exact ⟨_, went, rfl, rfl, (List.append_nil _).symm⟩

end CommandLine
end Scaffold
