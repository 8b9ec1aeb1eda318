import Mathlib.Data.List.DropRight
import Scaffold.Text.Basic

/-!
A trimmed text has no blanks at its ends, so trimming it again changes nothing; of the blanks, it keeps
those between visible characters.
-/
namespace Scaffold.Text

theorem trimCharsEnds (cs : List Char) : trimChars cs = (cs.dropWhile isBlank).rdropWhile isBlank :=
  rfl

theorem trimCharsInfix (cs : List Char) : trimChars cs <:+: cs :=
  (List.rdropWhile_prefix isBlank _).isInfix.trans (List.dropWhile_suffix isBlank).isInfix

theorem trimCharsHead {cs rest : List Char} {c : Char} (text : trimChars cs = c :: rest) :
    isBlank c = false := by
  -- what trimming leaves begins as the text does once its leading blanks are gone
  obtain ⟨after, whole⟩ : c :: rest <+: cs.dropWhile isBlank := by
    rw [← text, trimCharsEnds]
    exact List.rdropWhile_prefix isBlank _
  have opening := List.head?_dropWhile_not isBlank cs
  rw [← whole] at opening
  simpa using opening

theorem trimCharsLast {cs front : List Char} {c : Char} (text : trimChars cs = front ++ [c]) :
    isBlank c = false := by
  have some : (cs.dropWhile isBlank).rdropWhile isBlank ≠ [] := by
    rw [← trimCharsEnds, text]
    simp
  have last := List.rdropWhile_last_not isBlank (cs.dropWhile isBlank) some
  simp only [← trimCharsEnds, text, List.getLast_append_singleton] at last
  simpa using last

theorem trimCharsAgain (cs : List Char) : trimChars (trimChars cs) = trimChars cs := by
  have kept : (trimChars cs).dropWhile isBlank = trimChars cs := by
    cases text : trimChars cs with
    | nil => rfl
    | cons c rest => exact List.dropWhile_cons_of_neg (by simp [trimCharsHead text])
  rw [trimCharsEnds (trimChars cs), kept, trimCharsEnds, List.rdropWhile_idempotent]

theorem trimAgain (s : String) : trim (trim s) = trim s := by
  rw [trim, trim, String.toList_ofList, trimCharsAgain]

def Between (c : Char) (cs : List Char) : Prop :=
  ∃ front back, cs = front ++ c :: back ∧
    (∃ d ∈ front, isBlank d = false) ∧ ∃ d ∈ back, isBlank d = false

theorem trimCharsBetween {cs : List Char} {c : Char} (between : Between c cs) : c ∈ trimChars cs := by
  obtain ⟨front, back, rfl, ⟨first, early, seenFirst⟩, last, late, seenLast⟩ := between
  have opens : front.dropWhile isBlank ≠ [] := fun gone => by
    simp [List.dropWhile_eq_nil_iff.mp gone first early] at seenFirst
  have closes : back.reverse.dropWhile isBlank ≠ [] := fun gone => by
    simp [List.dropWhile_eq_nil_iff.mp gone last (List.mem_reverse.mpr late)] at seenLast
  simp [trimChars, List.dropWhile_append, opens, closes]

theorem betweenOfTrimmed {cs : List Char} {c : Char} (blank : isBlank c = true)
    (member : c ∈ trimChars cs) : Between c cs := by
  obtain ⟨leading, trailing, whole⟩ := trimCharsInfix cs
  obtain ⟨front, back, text⟩ := List.append_of_mem member
  refine ⟨leading ++ front, back ++ trailing, ?_, ?_, ?_⟩
  · rw [← whole, text]
    simp
  · cases front with
    | nil => simp [trimCharsHead text] at blank
    | cons d rest => exact ⟨d, by simp, trimCharsHead text⟩
  · rcases List.eq_nil_or_concat back with rfl | ⟨rest, d, rfl⟩
    · simp [trimCharsLast text] at blank
    · exact ⟨d, by simp, trimCharsLast (text.trans (by simp : _ = (front ++ c :: rest) ++ [d]))⟩

theorem trimNone {s : String} : trim s = "" ↔ isBlankText s = true := by
  rw [trim, ← String.toList_inj, String.toList_ofList, trimCharsEnds, isBlankText, List.all_eq_true,
    String.toList_empty, List.rdropWhile_eq_nil_iff]
  constructor
  · intro blank
    have opening := List.head?_dropWhile_not isBlank s.toList
    cases rest : s.toList.dropWhile isBlank with
    | nil => exact List.dropWhile_eq_nil_iff.mp rest
    | cons c cs =>
      rw [rest] at blank opening
      simp [blank c List.mem_cons_self] at opening
  · intro blank c member
    exact blank c ((List.dropWhile_sublist isBlank).subset member)

end Scaffold.Text
