import Scaffold.Proofs.Text.Parts
import Scaffold.Route.Path

/-!
The owner of an endpoint as a search for a part of its path, and the file of a route module as a
function of the module's name.
-/
namespace Scaffold.Route
open Text

structure NamedIn (table : Table) (path : String) : Prop where
  named : table.name ≠ ""
  occurs : (lower table.name).toList <:+: (lower path).toList

theorem ownerTest {table : Table} {path : String} :
    (!table.name.isEmpty && contains (lower path) (lower table.name)) = true ↔
      NamedIn table path := by
  rw [Bool.and_eq_true, containsIff, Bool.not_eq_true', Bool.eq_false_iff, Ne, String.isEmpty_iff]
  exact ⟨fun h => ⟨h.1, h.2⟩, fun h => ⟨h.1, h.2⟩⟩

theorem ownerNone {path : String} {tables : List Table} :
    owner? path tables = none ↔ ∀ table ∈ tables, ¬ NamedIn table path := by
  unfold owner?
  simp only [List.find?_eq_none, ownerTest]

theorem ownerSome {path : String} {tables : List Table} :
    owner? path tables ≠ none ↔ ∃ table ∈ tables, NamedIn table path := by
  rw [Ne, ownerNone]
  push Not
  rfl

theorem filePathIff {path name : String} :
    filePath path = "src/routes/" ++ name ++ ".ts" ↔ slug path = name := by
  rw [filePath, String.append_left_inj, String.append_right_inj]

theorem filePathInjective {left right : String} :
    filePath left = filePath right ↔ slug left = slug right :=
  filePathIff

theorem filePathInRoutes (path : String) : "src/routes/".toList <+: (filePath path).toList := by
  rw [filePath, String.append_assoc, String.toList_append]
  exact List.prefix_append _ _

end Scaffold.Route
