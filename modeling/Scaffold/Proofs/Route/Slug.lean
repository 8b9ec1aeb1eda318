import Scaffold.Files.Path
import Scaffold.Proofs.Route.Path
import Scaffold.Proofs.Text.Split

/-!
The module name of any path is a word, whatever the path holds; so the module lies right below
`src/routes`.
-/
namespace Scaffold.Route
open Text

theorem sanitizeWords {segment : String} {c : Char} (member : c ∈ (sanitize segment).toList) :
    isWordChar c = true := by
  rw [sanitize, String.toList_ofList] at member
  obtain ⟨original, _, rfl⟩ := List.mem_map.mp member
  split
  · assumption
  · decide

theorem slugWords {path : String} {c : Char} (member : c ∈ (slug path).toList) :
    isWordChar c = true := by
  unfold slug at member
  simp only at member
  split at member
  · have whole : "root".toList.all isWordChar = true := by decide
    exact List.all_eq_true.mp whole c member
  · rcases memIntercalate '_' member with rfl | ⟨word, inside, found⟩
    · decide
    · obtain ⟨segment, _, rfl⟩ := List.mem_map.mp inside
      exact sanitizeWords found

theorem slugSome (path : String) : slug path ≠ "" := by
  unfold slug
  simp only
  split
  · decide
  · rename_i filled
    exact fun empty => filled (String.isEmpty_iff.mpr empty)

def IsWord (s : String) : Prop :=
  ∀ c ∈ s.toList, c.isAlphanum = true ∨ c = '_'

theorem isWordIff {s : String} : IsWord s ↔ ∀ c ∈ s.toList, isWordChar c = true := by
  simp only [IsWord, isWordChar, Bool.or_eq_true, beq_iff_eq]

theorem wordOfAll {s : String} (all : s.toList.all isWordChar = true) : IsWord s :=
  isWordIff.mpr (List.all_eq_true.mp all)

theorem wordAppend {s t : String} (left : IsWord s) (right : IsWord t) : IsWord (s ++ t) := by
  intro c member
  rw [String.toList_append, List.mem_append] at member
  exact member.elim (left c) (right c)

theorem wordFree {s : String} (word : IsWord s) {c : Char} (mark : isWordChar c = false) :
    c ∉ s.toList := by
  intro member
  rw [isWordIff.mp word c member] at mark
  contradiction

theorem slugWord (path : String) : IsWord (slug path) :=
  isWordIff.mpr fun _ => slugWords

theorem slugFree (path : String) {c : Char} (mark : isWordChar c = false) :
    c ∉ (slug path).toList :=
  wordFree (slugWord path) mark

theorem filePieces (path : String) :
    Path.pieces ⟨filePath path⟩ = ["src", "routes", slug path ++ ".ts"] := by
  have joined : filePath path = String.intercalate "/" ["src", "routes", slug path ++ ".ts"] := by
    simp [← String.toList_inj, filePath, String.intercalate_cons_cons]
  rw [joined]
  refine splitAtJoin (List.cons_ne_nil _ _) fun piece member => ?_
  simp only [List.mem_cons, List.not_mem_nil, or_false] at member
  rcases member with rfl | rfl | rfl
  · decide
  · decide
  · simp [slugFree path (by decide : isWordChar '/' = false)]

end Scaffold.Route
