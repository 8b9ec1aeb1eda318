import Mathlib.Data.List.Basic
import Scaffold.Proofs.Text.Parts
import Scaffold.Proofs.Text.Split

/-!
Texts made of lines. As long as no line is broken the lines are found again, and so are blocks of indented
lines between an opening and a closing line.
-/
namespace Scaffold.Text

def OneLine (s : String) : Prop :=
  '\n' ∉ s.toList

instance (s : String) : Decidable (OneLine s) :=
  inferInstanceAs (Decidable ('\n' ∉ s.toList))

theorem oneLineAppend {s t : String} : OneLine (s ++ t) ↔ OneLine s ∧ OneLine t := by
  simp [OneLine, not_or]

theorem oneLineJoin {words : List String} : OneLine (String.join words) ↔ ∀ word ∈ words, OneLine word := by
  simp [OneLine, String.toList_join]

theorem unlinesInjective {left right : List String} (leftWhole : ∀ line ∈ left, OneLine line)
    (rightWhole : ∀ line ∈ right, OneLine line) (same : unlines left = unlines right) : left = right := by
  have cut := congrArg (fun text => splitAt '\n' (text ++ "")) same
  simp only [splitAtUnlines leftWhole, splitAtUnlines rightWhole] at cut
  exact List.append_cancel_right cut

structure Block where
  opening : String
  body : List String
  deriving DecidableEq, Repr

/- A block with its closing line and an empty one behind it. -/
def Block.lines (closing : String) (block : Block) : List String :=
  block.opening :: (block.body.map ("  " ++ ·) ++ [closing, ""])

variable {α : Type} {closing : String}

/- Texts that begin where a line ends, one after another: only the last line of all is not ended. -/
theorem joinLines {text : α → String} {lines : α → List String}
    (each : ∀ item, text item ++ "\n" = "\n" ++ unlines (lines item)) (items : List α) :
    String.join (items.map text) ++ "\n" = "\n" ++ unlines (items.flatMap lines) := by
  induction items with
  | nil => rfl
  | cons item items ih =>
    rw [List.map_cons, String.join_cons, String.append_assoc, ih, ← String.append_assoc, each,
      List.flatMap_cons, unlinesAppend, String.append_assoc]

theorem indentedLines (body : List String) :
    String.join (body.map ("\n  " ++ ·)) ++ "\n" = "\n" ++ unlines (body.map ("  " ++ ·)) := by
  have each : ∀ line : String, "\n  " ++ line ++ "\n" = "\n" ++ unlines ["  " ++ line] := by
    intro line
    simp only [unlines, List.map_cons, List.map_nil, String.join_cons, String.join_nil, String.append_empty,
      ← String.append_assoc]
    rfl
  rw [joinLines each, List.map_eq_flatMap]

theorem blockLines (closing opening : String) (body : List String) :
    "\n" ++ opening ++ String.join (body.map ("\n  " ++ ·)) ++ "\n" ++ closing ++ "\n" ++ "\n" =
      "\n" ++ unlines (Block.lines closing ⟨opening, body⟩) := by
  have cut : Block.lines closing ⟨opening, body⟩ = [opening] ++ body.map ("  " ++ ·) ++ [closing, ""] := rfl
  rw [cut, unlinesAppend, unlinesAppend]
  have first : unlines [opening] = opening ++ "\n" := by simp [unlines]
  have last : unlines [closing, ""] = closing ++ "\n" ++ "\n" := by
    simp [unlines, String.append_assoc]
  rw [first, last]
  have whole := indentedLines body
  calc
    _ = "\n" ++ opening ++ (String.join (body.map ("\n  " ++ ·)) ++ "\n") ++ (closing ++ "\n" ++ "\n") := by
      simp only [String.append_assoc]
    _ = _ := by rw [whole]; simp only [String.append_assoc]

/- Words as the lines of a list: a comma behind each but the last. -/
def punctuated (words : List String) : List String :=
  words.dropLast.map (· ++ ",") ++ words.getLast?.toList

theorem punctuatedNext (first next : String) (words : List String) :
    punctuated (first :: next :: words) = (first ++ ",") :: punctuated (next :: words) := by
  simp [punctuated]

theorem punctuatedJoin (words : List String) :
    String.intercalate "," (words.map ("\n  " ++ ·)) = String.join ((punctuated words).map ("\n  " ++ ·)) := by
  induction words with
  | nil => rfl
  | cons first words ih =>
    cases words with
    | nil => simp [punctuated]
    | cons next words =>
      rw [punctuatedNext, List.map_cons, List.map_cons, String.intercalate_cons_cons, ← List.map_cons, ih,
        List.map_cons, String.join_cons]
      simp only [String.append_assoc]

theorem punctuatedConcat (words : List String) (last : String) :
    punctuated (words ++ [last]) = words.map (· ++ ",") ++ [last] := by
  simp [punctuated]

theorem punctuatedInjective {left right : List String} (same : punctuated left = punctuated right) :
    left = right := by
  rcases List.eq_nil_or_concat' left with none | ⟨front, last, some⟩
  · rcases List.eq_nil_or_concat' right with empty | ⟨others, other, filled⟩
    · rw [none, empty]
    · rw [none, filled, punctuatedConcat] at same
      simp [punctuated] at same
  · rcases List.eq_nil_or_concat' right with empty | ⟨others, other, filled⟩
    · rw [some, empty, punctuatedConcat] at same
      simp [punctuated] at same
    · rw [some, filled, punctuatedConcat, punctuatedConcat] at same
      obtain ⟨fronts, lasts⟩ := List.append_inj' same rfl
      have fronts := List.map_injective_iff.mpr (fun _ _ => (String.append_left_inj ",").mp) fronts
      rw [some, filled, fronts, (List.cons.inj lasts).1]

theorem punctuatedOneLine {words : List String} (whole : ∀ word ∈ words, OneLine word) :
    ∀ line ∈ punctuated words, OneLine line := by
  intro line member
  rw [punctuated, List.mem_append] at member
  cases member with
  | inl early =>
    obtain ⟨word, inside, same⟩ := List.mem_map.mp early
    exact same ▸ oneLineAppend.mpr ⟨whole word (List.dropLast_subset _ inside), by decide⟩
  | inr last => exact whole line (List.mem_of_getLast? (Option.mem_toList.mp last))

def EndsInComma (s : String) : Prop :=
  s.toList.getLast? = some ','

instance (s : String) : Decidable (EndsInComma s) :=
  inferInstanceAs (Decidable (s.toList.getLast? = some ','))

/- There is a last character, and it is no comma. -/
def Closes (s : String) : Bool :=
  s.toList.getLast?.any (· != ',')

theorem closesUncomma {s : String} (closes : Closes s) : ¬ EndsInComma s := by
  intro comma
  rw [EndsInComma] at comma
  simp [Closes, comma] at closes

theorem closesAppend {s t : String} (closes : Closes t) : Closes (s ++ t) := by
  cases last : t.toList.getLast? with
  | none => simp [Closes, last] at closes
  | some c => simpa [Closes, last] using closes

theorem commaAppended (s : String) : EndsInComma (s ++ ",") := by
  simp [EndsInComma]

theorem linesEnd {closing line : String} (closes : Closes closing) (member : line ∈ [closing, ""]) :
    ¬ EndsInComma line := by
  rcases List.mem_cons.mp member with same | member
  · exact same ▸ closesUncomma closes
  · rw [List.mem_singleton.mp member]
    decide

/- In a block of punctuated words only the lines of words end in a comma, and of these not the last. -/
theorem blockCommas {opening closing : String} {words : List String} (opens : Closes opening)
    (closes : Closes closing) (each : ∀ word ∈ words, Closes word) {i : Nat} {line : String}
    (found : (Block.lines closing ⟨opening, punctuated words⟩)[i]? = some line) :
    EndsInComma line ↔ 1 ≤ i ∧ i < words.length := by
  cases i with
  | zero =>
    cases found
    simp [closesUncomma opens]
  | succ j =>
    rcases List.eq_nil_or_concat' words with none | ⟨front, word, some⟩
    · rw [none] at found ⊢
      simpa using linesEnd closes (List.mem_of_getElem? found)
    · have cut : (Block.lines closing ⟨opening, punctuated words⟩)[j + 1]? =
          (front.map ("  " ++ · ++ ",") ++ ("  " ++ word) :: [closing, ""])[j]? := by
        simp [Block.lines, some, punctuatedConcat, Function.comp_def, String.append_assoc]
      rw [cut] at found
      have count : words.length = front.length + 1 := by simp [some]
      by_cases inside : j < front.length
      · rw [List.getElem?_append_left (by simpa using inside)] at found
        obtain ⟨other, -, same⟩ := List.mem_map.mp (List.mem_of_getElem? found)
        have comma : EndsInComma line := same ▸ commaAppended _
        exact iff_of_true comma (by omega)
      · rw [List.getElem?_append_right (by simpa using inside)] at found
        have plain : ¬ EndsInComma line := by
          rcases List.mem_cons.mp (List.mem_of_getElem? found) with same | later
          · exact same ▸ closesUncomma (closesAppend (each word (by simp [some])))
          · exact linesEnd closes later
        exact iff_of_false plain (by omega)

theorem blockOneLine {closing opening : String} {body : List String} (opens : OneLine opening)
    (each : ∀ line ∈ body, OneLine line) (closes : OneLine closing) :
    ∀ line ∈ Block.lines closing ⟨opening, body⟩, OneLine line := by
  intro line member
  rw [Block.lines, List.mem_cons, List.mem_append, List.mem_map] at member
  rcases member with first | ⟨inner, inside, same⟩ | later
  · exact first ▸ opens
  · exact same ▸ oneLineAppend.mpr ⟨by decide, each inner inside⟩
  · rcases List.mem_cons.mp later with last | empty
    · exact last ▸ closes
    · rw [List.mem_singleton.mp empty]
      decide

theorem firstSame {front other back rest : List α} {item : α} (left : item ∉ front) (right : item ∉ other)
    (same : front ++ item :: back = other ++ item :: rest) : front = other ∧ back = rest := by
  induction front generalizing other with
  | nil =>
    cases other with
    | nil => exact ⟨rfl, (List.cons.inj same).2⟩
    | cons first other => exact absurd ((List.cons.inj same).1 ▸ List.mem_cons_self) right
  | cons first front ih =>
    cases other with
    | nil => exact absurd ((List.cons.inj same).1 ▸ List.mem_cons_self) left
    | cons second other =>
      obtain ⟨head, tail⟩ := List.cons.inj same
      obtain ⟨fronts, backs⟩ := ih (List.not_mem_of_not_mem_cons left) (List.not_mem_of_not_mem_cons right) tail
      exact ⟨by rw [head, fronts], backs⟩

theorem blockFirst (closing : String) (block : Block) (blocks : List Block) :
    (block :: blocks).flatMap (Block.lines closing) = block.opening ::
      (block.body.map ("  " ++ ·) ++ closing :: ("" :: blocks.flatMap (Block.lines closing))) := by
  simp [Block.lines]

/- A closing line is not indented, so a block ends at the first line that is its closing line. -/
theorem blocksInjective (apart : closing.toList.head? ≠ some ' ') {left right : List Block}
    (same : left.flatMap (Block.lines closing) = right.flatMap (Block.lines closing)) : left = right := by
  have closed : ∀ body : List String, closing ∉ body.map ("  " ++ ·) := by
    intro body member
    obtain ⟨line, -, same⟩ := List.mem_map.mp member
    exact apart (by rw [← same]; simp)
  induction left generalizing right with
  | nil =>
    cases right with
    | nil => rfl
    | cons block blocks => cases same.trans (blockFirst closing block blocks)
  | cons block blocks ih =>
    cases right with
    | nil => cases (blockFirst closing block blocks).symm.trans same
    | cons other others =>
      rw [blockFirst, blockFirst] at same
      obtain ⟨opening, rest⟩ := List.cons.inj same
      obtain ⟨body, tail⟩ := firstSame (closed _) (closed _) rest
      have body := List.map_injective_iff.mpr (fun _ _ => (String.append_right_inj "  ").mp) body
      have first : block = other := by
        cases block
        cases other
        exact congr (congrArg Block.mk opening) body
      rw [first, ih (List.cons.inj tail).2]

/- What the blocks are made from is told from the text, if it is told from the blocks. -/
theorem partsKept {β : Type} {parts : α → β} {block : β → Block} (injective : Function.Injective block)
    (apart : closing.toList.head? ≠ some ' ') {left right : List α}
    (leftWhole : ∀ item ∈ left, ∀ line ∈ (block (parts item)).lines closing, OneLine line)
    (rightWhole : ∀ item ∈ right, ∀ line ∈ (block (parts item)).lines closing, OneLine line)
    (same : unlines (left.flatMap fun item => (block (parts item)).lines closing) =
      unlines (right.flatMap fun item => (block (parts item)).lines closing)) :
    left.map parts = right.map parts := by
  have whole : ∀ {items : List α}, (∀ item ∈ items, ∀ line ∈ (block (parts item)).lines closing, OneLine line) →
      ∀ line ∈ items.flatMap fun item => (block (parts item)).lines closing, OneLine line := by
    intro items each line member
    obtain ⟨item, inside, found⟩ := List.mem_flatMap.mp member
    exact each item inside line found
  have lines := unlinesInjective (whole leftWhole) (whole rightWhole) same
  have cut : ∀ items : List α, items.flatMap (fun item => (block (parts item)).lines closing) =
      ((items.map parts).map block).flatMap (Block.lines closing) := by
    intro items
    rw [List.map_map, List.flatMap_map]
    rfl
  rw [cut, cut] at lines
  exact List.map_injective_iff.mpr injective (blocksInjective apart lines)

end Scaffold.Text
