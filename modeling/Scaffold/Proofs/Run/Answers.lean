import Scaffold.Proofs.Run.Loading

/-!
Tasks that only ask: what they answer is told by the files alone, and asking leaves them as they were.
-/
namespace Scaffold

def Holds (tree : FileTree) (current : Location) (path : Path) (text : String) : Prop :=
  ∃ content, tree.read current path = .ok content ∧ String.fromUTF8? content = some text

namespace Task

variable {α β : Type}

structure Answers (task : Task Session α) (tells : FileTree → Location → α → Prop) : Prop where
  quiet : Quiet task
  told : ∀ workspace value,
    (task.on workspace).1 = .ok value ↔ tells workspace.tree workspace.current value

theorem answersWhen {task : Task Session α} {tells means : FileTree → Location → α → Prop}
    (answers : Answers task tells)
    (same : ∀ tree current value, tells tree current value ↔ means tree current value) :
    Answers task means :=
  ⟨answers.quiet, fun workspace value => (answers.told workspace value).trans (same _ _ _)⟩

theorem answersPure (value : α) : Answers (pure value) fun _ _ result => value = result :=
  ⟨quietPure value, fun workspace result => by rw [onPure, Except.ok.injEq]⟩

theorem answersThrow (failure : Failure) :
    Answers (throw failure : Task Session α) fun _ _ _ => False :=
  ⟨quietThrow failure, fun _ value =>
    ⟨fun went => (nomatch (went : Except.error failure = .ok value)), False.elim⟩⟩

theorem answersNote (event : Log.Event) : Answers (note event) fun _ _ _ => True :=
  ⟨quietNote event, fun _ _ => ⟨fun _ => trivial, fun _ => rfl⟩⟩

theorem answersIsThere (path : Path) :
    Answers (isThere path) fun tree current there => tree.isThere current path = there :=
  ⟨quietIsThere path, fun workspace there => by rw [onIsThere, Except.ok.injEq]⟩

theorem answersIf {there : Bool} {yes no : Task Session α}
    {tells means : FileTree → Location → α → Prop} (left : Answers yes tells)
    (right : Answers no means) :
    Answers (if there then yes else no) fun tree current value =>
      if there then tells tree current value else means tree current value := by
  cases there with
  | true => exact left
  | false => exact right

theorem answersBind {task : Task Session α} {next : α → Task Session β}
    {tells : FileTree → Location → α → Prop} {later : α → FileTree → Location → β → Prop}
    (first : Answers task tells) (rest : ∀ value, Answers (next value) (later value)) :
    Answers (task >>= next) fun tree current result =>
      ∃ value, tells tree current value ∧ later value tree current result := by
  refine ⟨quietBind first.quiet fun value => (rest value).quiet, fun workspace result => ?_⟩
  obtain ⟨events, left⟩ := first.quiet workspace
  rw [bindOk, left]
  simp only [first.told, (rest _).told]

theorem answersRead (context : String) (path : Path) :
    Answers (attempt context (Host.read path)) fun tree current content =>
      tree.read current path = .ok content := by
  refine ⟨quietRead context path, fun workspace content => ?_⟩
  have carried : StateT.run (m := Id) (Host.read path : Session _) workspace =
      (workspace.tree.read workspace.current path, workspace) := rfl
  rw [onAttempt, carried]
  cases workspace.tree.read workspace.current path <;> simp

theorem answersReadText (context : String) (path : Path) :
    Answers (readText context path) fun tree current text => Holds tree current path text := by
  refine answersBind (answersRead context path) fun content => ?_
  cases decoded : String.fromUTF8? content with
  | none => exact answersWhen (answersThrow _) fun _ _ _ => by simp
  | some text => exact answersWhen (answersPure text) fun _ _ _ => by simp

end Task

end Scaffold
