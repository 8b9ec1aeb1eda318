import Scaffold.Proofs.Files.Tree
import Scaffold.Run.Host

/-!
Tasks carried out in a workspace: the result, and the workspace that is left, also by a failure.
-/
namespace Scaffold

def Task.on {α : Type} (task : Task Session α) (workspace : Workspace) :
    Except Failure α × Workspace :=
  StateT.run (m := Id) (ExceptT.run task) workspace

namespace Task

variable {α β : Type} (workspace : Workspace)

@[simp] theorem onPure (value : α) : (pure value : Task Session α).on workspace = (.ok value, workspace) :=
  rfl

theorem onBind (task : Task Session α) (next : α → Task Session β) :
    (task >>= next).on workspace =
      match task.on workspace with
      | (.ok value, between) => (next value).on between
      | (.error failure, between) => (.error failure, between) := by
  have carried : (task >>= next).on workspace =
      StateT.run (m := Id) (ExceptT.bindCont next (task.on workspace).1) (task.on workspace).2 := rfl
  rw [carried]
  rcases task.on workspace with ⟨_ | _, _⟩ <;> rfl

/- What holds of the workspace that a failing first step leaves, and of what the next step leaves after a
first one that went well. -/
theorem bindLeaves {workspace : Workspace} {task : Task Session α} {next : α → Task Session β}
    (property : Workspace → Prop)
    (failed : ∀ failure between, task.on workspace = (.error failure, between) → property between)
    (went : ∀ value between, task.on workspace = (.ok value, between) →
      property ((next value).on between).2) :
    property ((task >>= next).on workspace).2 := by
  rw [onBind]
  rcases first : task.on workspace with ⟨failure | value, between⟩
  · exact failed failure between first
  · exact went value between first

theorem bindOk {task : Task Session α} {next : α → Task Session β} {result : β} :
    ((task >>= next).on workspace).1 = .ok result ↔ ∃ value, (task.on workspace).1 = .ok value ∧
      ((next value).on (task.on workspace).2).1 = .ok result := by
  rw [onBind]
  rcases task.on workspace with ⟨failure | value, between⟩ <;> simp

theorem onBindOk {workspace after : Workspace} {task : Task Session α} {next : α → Task Session β} {result : β} :
    (task >>= next).on workspace = (.ok result, after) ↔ ∃ value between,
      task.on workspace = (.ok value, between) ∧ (next value).on between = (.ok result, after) := by
  rw [onBind]
  rcases task.on workspace with ⟨failure | value, between⟩ <;> simp

theorem onBindError {workspace after : Workspace} {task : Task Session α} {next : α → Task Session β}
    {failure : Failure} :
    (task >>= next).on workspace = (.error failure, after) ↔ task.on workspace = (.error failure, after) ∨
      ∃ value between, task.on workspace = (.ok value, between) ∧
        (next value).on between = (.error failure, after) := by
  rw [onBind]
  rcases task.on workspace with ⟨failure | value, between⟩ <;> simp

theorem onNext {workspace between : Workspace} {task : Task Session α} {next : α → Task Session β}
    {value : α} (went : task.on workspace = (.ok value, between)) :
    (task >>= next).on workspace = (next value).on between := by
  rw [onBind, went]

@[simp] theorem onPrint (line : String) :
    (Task.print line : Task Session Unit).on workspace =
      (.ok (), { workspace with printed := workspace.printed ++ [line] }) :=
  rfl

@[simp] theorem onNote (event : Log.Event) :
    (Task.note event : Task Session Unit).on workspace =
      (.ok (), { workspace with events := workspace.events ++ [event] }) :=
  rfl

@[simp] theorem onIsThere (path : Path) :
    (Task.isThere path : Task Session Bool).on workspace =
      (.ok (workspace.tree.isThere workspace.current path), workspace) :=
  rfl

theorem onLift (action : Session α) :
    Task.on (ExceptT.lift action) workspace =
      (.ok (StateT.run (m := Id) action workspace).1, (StateT.run (m := Id) action workspace).2) :=
  rfl

theorem onAttempt (context : String) (action : Session (Except FileFault α)) :
    (Task.attempt context action).on workspace =
      match StateT.run (m := Id) action workspace with
      | (.ok value, after) => (.ok value, after)
      | (.error fault, after) => (.error (Failure.ofCause context (.file fault)), after) := by
  rw [Task.attempt, onBind, onLift]
  rcases StateT.run (m := Id) action workspace with ⟨_ | _, _⟩ <;> rfl

theorem onMake (context : String) (path : Path) :
    (Task.attempt context (Host.makeDirectories path) : Task Session Unit).on workspace =
      match workspace.tree.makeDirectories workspace.current path with
      | (.ok (), tree) => (.ok (), { workspace with tree := tree })
      | (.error fault, tree) =>
        (.error (.ofCause context (.file fault)), { workspace with tree := tree }) := by
  have carried : StateT.run (m := Id) (Host.makeDirectories path : Session _) workspace =
      ((workspace.tree.makeDirectories workspace.current path).1,
        { workspace with tree := (workspace.tree.makeDirectories workspace.current path).2 }) := rfl
  rw [onAttempt, carried]
  rcases workspace.tree.makeDirectories workspace.current path with ⟨_ | _, _⟩ <;> rfl

theorem onWrite (context : String) (path : Path) (content : ByteArray) :
    (Task.attempt context (Host.write path content) : Task Session Unit).on workspace =
      match workspace.tree.write workspace.current path content with
      | .ok tree => (.ok (), { workspace with tree := tree })
      | .error fault => (.error (.ofCause context (.file fault)), workspace) := by
  have carried : StateT.run (m := Id) (Host.write path content : Session _) workspace =
      match workspace.tree.write workspace.current path content with
      | .ok tree => (.ok (), { workspace with tree := tree })
      | .error fault => (.error fault, workspace) := rfl
  rw [onAttempt, carried]
  cases workspace.tree.write workspace.current path content <;> rfl

theorem withinLeaves (context : String) (task : Task Session α) :
    ((Task.within context task).on workspace).2 = (task.on workspace).2 :=
  rfl

end Task
end Scaffold
