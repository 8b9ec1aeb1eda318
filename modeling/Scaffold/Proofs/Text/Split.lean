import Mathlib.Data.List.Basic
import Scaffold.Text.Basic

/-!
A text cut at a separator: no piece holds the separator, and the pieces with the separator between
them are the text again.
-/
namespace Scaffold.Text

variable {separator : Char}

theorem splitOnFree {cs piece : List Char} (member : piece ∈ cs.splitOn separator) :
    separator ∉ piece := by
  induction cs generalizing piece with
  | nil =>
    rw [List.mem_singleton.mp member]
    exact List.not_mem_nil
  | cons c cs ih =>
    rw [List.splitOn_cons_eq_if_modifyHead] at member
    split at member
    · rcases List.mem_cons.mp member with rfl | rest
      · exact List.not_mem_nil
      · exact ih rest
    · rename_i other
      have other : separator ≠ c := fun same => other (by simp [same])
      cases pieces : cs.splitOn separator with
      | nil => exact absurd pieces (List.splitOn_ne_nil _ _)
      | cons first rest =>
        rw [pieces] at member ih
        rcases List.mem_cons.mp member with rfl | later
        · exact List.not_mem_cons_of_ne_of_not_mem other (ih List.mem_cons_self)
        · exact ih (List.mem_cons_of_mem _ later)

theorem splitAtFree {s piece : String} (member : piece ∈ splitAt separator s) :
    separator ∉ piece.toList := by
  obtain ⟨cs, inside, rfl⟩ := List.mem_map.mp member
  rw [String.toList_ofList]
  exact splitOnFree inside

theorem memSplitOn {cs : List Char} {c : Char} :
    (∃ piece ∈ cs.splitOn separator, c ∈ piece) ↔ c ∈ cs ∧ c ≠ separator := by
  induction cs with
  | nil => simp
  | cons d cs ih =>
    rw [List.splitOn_cons_eq_if_modifyHead]
    split
    · rename_i same
      have same : d = separator := by simpa using same
      subst same
      simp only [List.mem_cons, exists_eq_or_imp, List.not_mem_nil, false_or, ih]
      exact ⟨fun later => ⟨.inr later.1, later.2⟩, fun h => ⟨h.1.resolve_left h.2, h.2⟩⟩
    · rename_i other
      have other : d ≠ separator := by simpa using other
      cases pieces : cs.splitOn separator with
      | nil => exact absurd pieces (List.splitOn_ne_nil _ _)
      | cons first rest =>
        rw [pieces] at ih
        simp only [List.modifyHead_cons, List.mem_cons, exists_eq_or_imp] at ih ⊢
        rw [or_assoc, ih]
        constructor
        · rintro (rfl | later)
          · exact ⟨.inl rfl, other⟩
          · exact ⟨.inr later.1, later.2⟩
        · rintro ⟨rfl | later, apart⟩
          · exact .inl rfl
          · exact .inr ⟨later, apart⟩

theorem memSplitAt {s : String} {c : Char} :
    (∃ piece ∈ splitAt separator s, c ∈ piece.toList) ↔ c ∈ s.toList ∧ c ≠ separator := by
  rw [← memSplitOn, splitAt]
  simp

theorem splitAtSome (separator : Char) (s : String) : splitAt separator s ≠ [] := by
  simp [splitAt]

theorem splitAtAlone {s : String} (free : separator ∉ s.toList) : splitAt separator s = [s] := by
  simp [splitAt, List.splitOn_eq_singleton free]

theorem splitAtBetween {s : String} {left right : List Char}
    (text : s.toList = left ++ separator :: right) :
    splitAt separator s = splitAt separator (String.ofList left) ++
      splitAt separator (String.ofList right) := by
  simp [splitAt, text, List.splitOn_append_cons_self]

theorem splitAtWord {word : String} (free : separator ∉ word.toList) (rest : String) :
    splitAt separator (word ++ (String.ofList [separator] ++ rest)) =
      word :: splitAt separator rest := by
  rw [splitAtBetween (by simp : _ = word.toList ++ separator :: rest.toList), String.ofList_toList,
    String.ofList_toList, splitAtAlone free]
  rfl

theorem splitAtUnlines {lines : List String} (free : ∀ line ∈ lines, '\n' ∉ line.toList)
    (rest : String) : splitAt '\n' (unlines lines ++ rest) = lines ++ splitAt '\n' rest := by
  induction lines with
  | nil => simp [unlines]
  | cons line lines ih =>
    have first : unlines (line :: lines) ++ rest =
        line ++ (String.ofList ['\n'] ++ (unlines lines ++ rest)) := by
      simp [unlines, String.append_assoc]
    rw [first, splitAtWord (free line List.mem_cons_self),
      ih fun other later => free other (List.mem_cons_of_mem _ later)]
    rfl

theorem intercalateJoin (separator first : String) (rest : List String) :
    String.intercalate separator (first :: rest) =
      first ++ String.join (rest.map (separator ++ ·)) := by
  induction rest generalizing first with
  | nil => simp
  | cons next rest ih => simp [String.intercalate_cons_cons, ih, String.append_assoc]

theorem joinSplitAt (separator : Char) (s : String) :
    String.intercalate (String.ofList [separator]) (splitAt separator s) = s := by
  rw [← String.toList_inj, String.toList_intercalate, splitAt, List.map_map]
  simp [Function.comp_def]

theorem splitAtJoin {pieces : List String} (some : pieces ≠ [])
    (free : ∀ piece ∈ pieces, separator ∉ piece.toList) :
    splitAt separator (String.intercalate (String.ofList [separator]) pieces) = pieces := by
  rw [splitAt, String.toList_intercalate, String.toList_ofList,
    List.splitOn_intercalate separator (by simpa using free) (by simpa using some), List.map_map]
  simp [Function.comp_def]

theorem memIntercalate (separator : Char) {c : Char} {words : List String}
    (member : c ∈ (String.intercalate (String.ofList [separator]) words).toList) :
    c = separator ∨ ∃ word ∈ words, c ∈ word.toList := by
  by_cases same : c = separator
  · exact .inl same
  · induction words with
    | nil => exact absurd member List.not_mem_nil
    | cons word words ih =>
      cases words with
      | nil => exact .inr ⟨word, List.mem_singleton_self _, by simpa using member⟩
      | cons next words =>
        rw [String.intercalate_cons_cons, String.toList_append, String.toList_append,
          String.toList_ofList, List.mem_append, List.mem_append, List.mem_singleton] at member
        rcases member with (here | between) | later
        · exact .inr ⟨word, List.mem_cons_self, here⟩
        · exact .inl between
        · rcases ih later with between | ⟨other, inside, found⟩
          · exact .inl between
          · exact .inr ⟨other, List.mem_cons_of_mem _ inside, found⟩

theorem intercalateHolds (separator : String) {c : Char} {word : String} {words : List String}
    (inside : word ∈ words) (found : c ∈ word.toList) :
    c ∈ (String.intercalate separator words).toList := by
  cases words with
  | nil => exact absurd inside List.not_mem_nil
  | cons first rest =>
    rw [intercalateJoin, String.toList_append, List.mem_append]
    rcases List.mem_cons.mp inside with rfl | later
    · exact .inl found
    · refine .inr ?_
      rw [String.toList_join, List.mem_flatMap]
      exact ⟨separator ++ word, List.mem_map_of_mem later, by simp [found]⟩

end Scaffold.Text
