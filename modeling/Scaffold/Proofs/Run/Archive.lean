import Scaffold.Proofs.Run.Frame

/-!
Tasks by the places where they may change a file, however they end. An archive changes one place.
-/
namespace Scaffold
open FileTree

variable {before between after : Workspace}

/- Nothing is deleted, and files change only in some places. -/
structure Touches (places : Location → Prop) (before after : Workspace) : Prop where
  current : after.current = before.current
  persists : before.tree.Persists after.tree
  others : ∀ location, ¬ places location → after.tree.file? location = before.tree.file? location

theorem touchesSame {places : Location → Prop} (same : after.tree = before.tree)
    (place : after.current = before.current) : Touches places before after where
  current := place
  persists := same ▸ persistsSelf _
  others location _ := by rw [same]

theorem touchesTrans {places : Location → Prop} (left : Touches places before between)
    (right : Touches places between after) : Touches places before after where
  current := right.current.trans left.current
  persists := persistsTrans left.persists right.persists
  others location apart := (right.others location apart).trans (left.others location apart)

theorem touchesGrown {places : Location → Prop} {tree : FileTree}
    (grown : Grown before.tree tree) : Touches places before { before with tree := tree } where
  current := rfl
  persists := grownPersists grown
  others location _ := grownFile grown location

theorem touchesWiden {places wider : Location → Prop} (touches : Touches places before after)
    (inside : ∀ location, places location → wider location) : Touches wider before after where
  current := touches.current
  persists := touches.persists
  others location apart := touches.others location fun member => apart (inside location member)

theorem writeTouches (context : String) (path : Path) (content : ByteArray) (before : Workspace) :
    Touches (· = path.destination before.current) before
      ((Task.attempt context (Host.write path content) : Task Session Unit).on before).2 := by
  rw [Task.onWrite]
  cases done : before.tree.write before.current path content with
  | error fault => exact touchesSame rfl rfl
  | ok tree =>
    obtain ⟨-, rewritten⟩ := writeRewrites done
    exact ⟨rfl, rewrittenPersists rewritten, fun location apart => rewrittenFile rewritten apart⟩

theorem makeTouches (context : String) (path : Path) (before : Workspace) {places : Location → Prop} :
    Touches places before
      ((Task.attempt context (Host.makeDirectories path) : Task Session Unit).on before).2 := by
  have grown := makeDirectoriesGrown before.tree before.current path
  rw [Task.onMake]
  rcases made : before.tree.makeDirectories before.current path with ⟨fault | ⟨⟩, tree⟩ <;>
    rw [made] at grown <;> exact touchesGrown grown

theorem bindTouches {α β : Type} {places : Location → Prop} {task : Task Session α}
    {next : α → Task Session β} (first : Touches places before (task.on before).2)
    (later : ∀ value between, between.current = before.current →
      Touches places between ((next value).on between).2) :
    Touches places before ((task >>= next).on before).2 := by
  refine Task.bindLeaves (Touches places before) (fun failure between went => ?_)
    fun value between went => ?_ <;> rw [went] at first
  · exact first
  · exact touchesTrans first (later value between first.current)

theorem archiveTouches (project : Project) (path : Path) (before : Workspace) :
    Touches (· = path.destination before.current) before
      ((writeArchive project path).on before).2 := by
  have packed : ∀ between : Workspace, between.current = before.current →
      Touches (· = path.destination before.current) between
        ((do
          Task.attempt ("Failed to write archive " ++ path.text)
            (Host.write path (Archive.encode project.resolved))
          Task.note (.archiveWritten path (Archive.encode project.resolved).size) :
            Task Session Unit).on between).2 := by
    intro between place
    rw [← place]
    exact bindTouches (writeTouches _ _ _ _) fun _ _ _ => touchesSame rfl rfl
  unfold writeArchive
  extract_lets content
  split
  · exact bindTouches (makeTouches _ _ _) fun _ between place => packed between place
  · exact packed before rfl

end Scaffold
