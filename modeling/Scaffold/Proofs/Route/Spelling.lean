import Scaffold.Proofs.Route.Slug
import Scaffold.Route.Module

/-!
Parameters of a path in their three spellings, and the path as the router takes it. It is the declared one
exactly when the declared one is spelled so.
-/
namespace Scaffold.Route
open Text

theorem betweenIff {opening closing : Char} {cs name : List Char} :
    between? opening closing cs = some name ↔ cs = opening :: (name ++ [closing]) := by
  cases cs with
  | nil => simp [between?]
  | cons first rest =>
    rw [between?]
    constructor
    · intro found
      split at found
      · next ends =>
        rw [Bool.and_eq_true, beq_iff_eq, beq_iff_eq] at ends
        obtain ⟨inner, rfl⟩ := List.getLast?_eq_some_iff.mp ends.2
        rw [List.dropLast_concat, Option.some.injEq] at found
        rw [ends.1, found]
      · contradiction
    · rintro ⟨rfl, rfl⟩
      simp

/- The opening character says which spelling it can be. -/
theorem betweenApart {cs : List Char} {name : List Char}
    (bracketed : between? '[' ']' cs = some name) : between? '\x7b' '\x7d' cs = none := by
  rw [betweenIff.mp bracketed]
  rfl

theorem parameterColon {segment : String} {name : List Char} (opened : segment.toList = ':' :: name) :
    parameter? segment = some (String.ofList name) := by
  unfold parameter?
  rw [opened]
  rfl

theorem parameterOther {segment : String} (other : ∀ name, segment.toList ≠ ':' :: name) :
    parameter? segment = ((between? '\x7b' '\x7d' segment.toList).or
      (between? '[' ']' segment.toList)).map String.ofList := by
  unfold parameter?
  cases cs : segment.toList with
  | nil => rfl
  | cons c rest =>
    have different : c ≠ ':' := fun same => other rest (same ▸ cs)
    simp [different]

theorem parameterIff {segment name : String} :
    parameter? segment = some name ↔
      segment = ":" ++ name ∨ segment = "\x7b" ++ name ++ "\x7d" ∨ segment = "[" ++ name ++ "]" := by
  have spell : ∀ text : String, segment = text ↔ segment.toList = text.toList :=
    fun text => String.toList_inj.symm
  by_cases colon : ∃ rest, segment.toList = ':' :: rest
  · obtain ⟨rest, opened⟩ := colon
    rw [parameterColon opened, spell, spell, spell, opened, Option.some.injEq, ← String.toList_inj]
    simp
  · have other : ∀ rest, segment.toList ≠ ':' :: rest := fun rest opened => colon ⟨rest, opened⟩
    have noColon : segment ≠ ":" ++ name := fun same => other name.toList (by simp [same])
    have named : ∀ found : List Char, String.ofList found = name ↔ found = name.toList := fun found => by
      rw [← String.toList_inj, String.toList_ofList]
    rw [parameterOther other, or_iff_right noColon, Option.map_eq_some_iff, spell, spell]
    simp only [named, exists_eq_right, Option.or_eq_some_iff, betweenIff]
    constructor
    · rintro (braced | ⟨-, bracketed⟩)
      · exact .inl (by simpa using braced)
      · exact .inr (by simpa using bracketed)
    · rintro (braced | bracketed)
      · exact .inl (by simpa using braced)
      · have bracketed : segment.toList = '[' :: (name.toList ++ [']']) := by simpa using bracketed
        exact .inr ⟨betweenApart (betweenIff.mpr bracketed), bracketed⟩

def spelled (segment : String) : String :=
  match parameter? segment with
  | some name => ":" ++ name
  | none => segment

def Colonised (path : String) : Prop :=
  ∀ segment ∈ segments path, ∀ name,
    segment ≠ "\x7b" ++ name ++ "\x7d" ∧ segment ≠ "[" ++ name ++ "]"

theorem spelledParameter {segment name : String} (named : parameter? segment = some name) :
    spelled segment = ":" ++ name := by
  rw [spelled, named]

theorem spelledSame {segment : String} :
    spelled segment = segment ↔
      ∀ name, segment ≠ "\x7b" ++ name ++ "\x7d" ∧ segment ≠ "[" ++ name ++ "]" := by
  constructor
  · intro same name
    have colon : parameter? segment = some name → segment = ":" ++ name :=
      fun named => same.symm.trans (spelledParameter named)
    refine ⟨fun braced => ?_, fun bracketed => ?_⟩
    · have both := (colon (parameterIff.mpr (.inr (.inl braced)))).symm.trans braced
      simp [← String.toList_inj] at both
    · have both := (colon (parameterIff.mpr (.inr (.inr bracketed)))).symm.trans bracketed
      simp [← String.toList_inj] at both
  · intro other
    cases named : parameter? segment with
    | none => rw [spelled, named]
    | some name =>
      rw [spelledParameter named]
      rcases parameterIff.mp named with colon | braced | bracketed
      · exact colon.symm
      · exact absurd braced (other name).1
      · exact absurd bracketed (other name).2

theorem spelledFree {segment : String} (free : '/' ∉ segment.toList) :
    '/' ∉ (spelled segment).toList := by
  cases named : parameter? segment with
  | none => rwa [spelled, named]
  | some name =>
    rw [spelledParameter named]
    rcases parameterIff.mp named with rfl | rfl | rfl <;> simpa using free

theorem routerPathSegments (path : String) :
    segments (routerPath path) = (segments path).map spelled := by
  have some : (segments path).map spelled ≠ [] := by
    rw [Ne, List.map_eq_nil_iff]
    exact splitAtSome '/' path
  refine splitAtJoin some fun piece member => ?_
  obtain ⟨segment, inside, rfl⟩ := List.mem_map.mp member
  exact spelledFree (splitAtFree inside)

theorem routerPathSame {path : String} : routerPath path = path ↔ Colonised path := by
  constructor
  · intro same segment member
    have pieces := routerPathSegments path
    rw [same] at pieces
    have kept : (segments path).map spelled = (segments path).map id := by rw [← pieces, List.map_id]
    exact spelledSame.mp (List.map_inj_left.mp kept segment member)
  · intro colonised
    have kept : (segments path).map spelled = (segments path).map id :=
      List.map_congr_left fun segment member => spelledSame.mpr (colonised segment member)
    have joined : routerPath path = String.intercalate "/" ((segments path).map spelled) := rfl
    rw [joined, kept, List.map_id]
    exact joinSplitAt '/' path

end Scaffold.Route
