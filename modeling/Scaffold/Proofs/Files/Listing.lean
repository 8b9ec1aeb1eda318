import Scaffold.Proofs.Files.Way

/-!
The files below a place, in the order in which they came there. A new file comes last, and directories
do not count.
-/
namespace Scaffold.FileTree

variable {tree after : FileTree} {base here location : Location} {segments names : List String}

def Bare (tree : FileTree) (base : Location) : Prop :=
  ∀ names, names ≠ [] → tree.entry? (names ++ base) = none

end Scaffold.FileTree
