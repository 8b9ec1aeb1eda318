import Mathlib.Data.List.Infix
import Scaffold.Text.Basic

/-!
The search for a part of a text finds exactly the infixes: a line is found in its lines, and a part that
is one word lies in one word of the text.
-/
namespace Scaffold.Text

theorem occursInIff {part cs : List Char} : occursIn part cs = true ↔ part <:+: cs := by
  induction cs with
  | nil => simp [occursIn]
  | cons c rest ih =>
    rw [occursIn, Bool.or_eq_true, List.isPrefixOf_iff_prefix, ih, List.infix_cons_iff]

theorem containsIff {s part : String} : contains s part = true ↔ part.toList <:+: s.toList :=
  occursInIff

theorem containsTrans {s t part : String} (inside : contains t part = true) (outer : contains s t = true) :
    contains s part = true :=
  containsIff.mpr ((containsIff.mp inside).trans (containsIff.mp outer))

theorem containsSelf {s : String} : contains s s = true :=
  containsIff.mpr (List.infix_refl _)

theorem containsLeft {s t part : String} (inside : contains s part = true) : contains (s ++ t) part = true := by
  rw [containsIff, String.toList_append]
  exact (containsIff.mp inside).trans (List.prefix_append _ _).isInfix

theorem containsRight {s t part : String} (inside : contains t part = true) : contains (s ++ t) part = true := by
  rw [containsIff, String.toList_append]
  exact (containsIff.mp inside).trans (List.suffix_append _ _).isInfix

theorem containsBetween {part : String} {parts : List String} (separator : String) (member : part ∈ parts) :
    contains (String.intercalate separator parts) part = true := by
  induction parts with
  | nil => contradiction
  | cons first rest ih =>
    cases rest with
    | nil =>
      rw [List.mem_singleton.mp member, String.intercalate_singleton]
      exact containsSelf
    | cons second others =>
      rw [String.intercalate_cons_cons]
      rcases List.mem_cons.mp member with rfl | later
      · exact containsLeft (containsLeft containsSelf)
      · exact containsRight (ih later)

theorem containsJoined {part : String} {parts : List String} (member : part ∈ parts) :
    contains (String.join parts) part = true := by
  obtain ⟨before, after, rfl⟩ := List.append_of_mem member
  rw [String.join_append, String.join_cons]
  exact containsRight (containsLeft containsSelf)

theorem unlinesHolds {lines : List String} {line : String} (member : line ∈ lines) :
    contains (unlines lines) (line ++ "\n") = true :=
  containsJoined (List.mem_map_of_mem member)

theorem unlinesAppend (before after : List String) :
    unlines (before ++ after) = unlines before ++ unlines after := by
  simp [unlines]

theorem afterStart (start rest : String) : after? start (start ++ rest) = some rest := by
  simp [after?, List.isPrefixOf_iff_prefix, ← String.length_toList]

theorem beforeLast (rest last : String) : before? last (rest ++ last) = some rest := by
  simp [before?, ← String.length_toList]

theorem infixBesides {part left right : List Char} {c : Char} (free : c ∉ part)
    (inside : part <:+: left ++ c :: right) : part <:+: left ∨ part <:+: right := by
  obtain ⟨before, after, whole⟩ := inside
  rw [List.append_assoc] at whole
  rcases List.append_eq_append_iff.mp whole with ⟨start, rfl, rest⟩ | ⟨start, rfl, rest⟩
  · rcases List.append_eq_append_iff.mp rest with ⟨tail, rfl, -⟩ | ⟨tail, rfl, last⟩
    · exact .inl ⟨before, tail, by simp⟩
    · cases tail with
      | nil => exact .inl ⟨before, [], by simp⟩
      | cons d tail =>
        cases (List.cons.inj last).1
        exact absurd (by simp) free
  · cases start with
    | nil =>
      cases part with
      | nil => exact .inl (List.nil_infix)
      | cons d part =>
        cases (List.cons.inj rest).1
        exact absurd List.mem_cons_self free
    | cons d start =>
      obtain ⟨-, rfl⟩ := List.cons.inj rest
      exact .inr ⟨start, after, by simp⟩

theorem infixOfWords {part head : List Char} {words : List String} (free : ' ' ∉ part)
    (inside : part <:+: head ++ (String.join (words.map (" " ++ ·))).toList) :
    part <:+: head ∨ ∃ word ∈ words, part <:+: word.toList := by
  induction words generalizing head with
  | nil => exact .inl (by simpa using inside)
  | cons word words ih =>
    have cut : head ++ (String.join ((word :: words).map (" " ++ ·))).toList =
        head ++ ' ' :: (word.toList ++ (String.join (words.map (" " ++ ·))).toList) := by
      simp [String.toList_join]
    rw [cut] at inside
    rcases infixBesides free inside with first | later
    · exact .inl first
    · rcases ih later with here | ⟨other, member, found⟩
      · exact .inr ⟨word, List.mem_cons_self, here⟩
      · exact .inr ⟨other, List.mem_cons_of_mem _ member, found⟩

end Scaffold.Text
