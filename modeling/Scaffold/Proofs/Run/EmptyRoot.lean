import Scaffold.Proofs.Files.Listing
import Scaffold.Proofs.Run.Landing

/-!
Files written below a root with nothing below it: all of them are written, in order, and they are all
that is found there.
-/
namespace Scaffold
open FileTree

structure Fresh (tree : FileTree) (base : Location) (names : List String) : Prop where
  way : tree.Passable base names.dropLast
  unused : tree.entry? (names.reverse ++ base) = none

variable {root path : Path} {options : WriteOptions} {file : File} {files : List File}
  {before after : Workspace} {opened : FileTree} {base : Location} {names : List String}

theorem freshClear (fresh : Fresh opened base names) : Clear opened base names :=
  ⟨fresh.way, by simp [fresh.unused]⟩

theorem bareFresh (bare : opened.Bare base) (named : names ≠ []) (below : ".." ∉ names) :
    Fresh opened base names := by
  refine ⟨fun location member => ?_, bare _ (by simpa using named)⟩
  have within := (stopsBelow fun back => below (List.mem_of_mem_dropLast back)).mp member
  obtain ⟨front, some, -, rfl⟩ := within
  rw [file?, bare _ (by simpa using some)]

/- A root in an empty workspace, as the witnesses take it. -/
theorem outDestination : Path.destination ⟨"out"⟩ [] = ["out"] := by
  decide +kernel

theorem outOpens : Opens {} ⟨"out"⟩ (({} : FileTree).put ["out"] .directory) := by
  have segments : Path.segments ⟨"out"⟩ = ["out"] := by decide +kernel
  exact ⟨by decide, rfl, rfl, by rw [segments]; rfl⟩

theorem outBare : (({} : FileTree).put ["out"] .directory).Bare (Path.destination ⟨"out"⟩ []) := by
  intro names named
  rw [outDestination, entryPut (List.cons_ne_nil _ _), if_neg (by simpa using named),
    entryListed (by simp)]
  rfl

end Scaffold
