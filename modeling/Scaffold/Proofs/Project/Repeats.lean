import Mathlib.Data.List.Count
import Mathlib.Data.List.Forall2
import Scaffold.Project.Warning
import Scaffold.Proofs.Project.Resolution

/-!
The warnings about paths that occur again: one for each, told where the path occurs for the second time.
There is none exactly when every file is resolved to itself.
-/
namespace Scaffold

structure SecondAt (files : List File) (path : String) (position : Nat) : Prop where
  here : (files.map (·.path))[position]? = some path
  before : ((files.map (·.path)).take position).count path = 1

theorem secondAppend {files : List File} {path : String} {position : Nat}
    (second : SecondAt files path position) (later : List File) :
    SecondAt (files ++ later) path position := by
  obtain ⟨here, before⟩ := second
  have inside : position < (files.map (·.path)).length := (List.getElem?_eq_some_iff.mp here).1
  refine ⟨?_, ?_⟩
  · rw [List.map_append, List.getElem?_append_left inside, here]
  · rw [List.map_append, List.take_append_of_le_length (Nat.le_of_lt inside), before]

theorem secondLast {files : List File} {file : File}
    (met : (files.map (·.path)).count file.path = 1) :
    SecondAt (files ++ [file]) file.path files.length := by
  refine ⟨?_, ?_⟩
  · simp
  · simpa using met

/- A path is told when the file after its first one comes, and never again. -/
theorem repeatedAppend (files : List File) (file : File) :
    repeatedPaths (files ++ [file]) =
      if (files.map (·.path)).count file.path = 1 then repeatedPaths files ++ [file.path]
      else repeatedPaths files := by
  have told := logTells files
  unfold repeatedPaths
  rw [List.foldl_append, List.foldl_cons, List.foldl_nil, PathLog.note]
  simp only [Bool.not_eq_true', List.contains_eq_mem, decide_eq_true_eq, decide_eq_false_iff_not,
    told.seen, told.again]
  by_cases fresh : (files.map (·.path)).count file.path = 0
  · simp [fresh]
  by_cases first : (files.map (·.path)).count file.path = 1
  · simp [first]
  have known : 2 ≤ (files.map (·.path)).count file.path := by omega
  simp [first, known, Nat.le_of_succ_le known]

theorem repeatedOnce (files : List File) : (repeatedPaths files).Nodup := by
  induction files using List.reverseRecOn with
  | nil => exact List.nodup_nil
  | append_singleton files file ih =>
    rw [repeatedAppend]
    split
    · next first =>
      have untold : file.path ∉ repeatedPaths files := by
        rw [memRepeated]
        omega
      rw [← List.concat_eq_append]
      exact List.Nodup.concat untold ih
    · exact ih

structure Seconds (files : List File) (paths : List String) (positions : List Nat) : Prop where
  each : List.Forall₂ (SecondAt files) paths positions
  ascending : positions.Pairwise (· < ·)

theorem secondsInside {files : List File} {paths : List String} {positions : List Nat}
    (each : List.Forall₂ (SecondAt files) paths positions) :
    ∀ position ∈ positions, position < files.length := by
  induction each with
  | nil => simp
  | cons second rest ih =>
    intro position member
    rcases List.mem_cons.mp member with same | later
    · subst same
      simpa using (List.getElem?_eq_some_iff.mp second.here).1
    · exact ih position later

theorem repeatedSeconds (files : List File) :
    ∃ positions, Seconds files (repeatedPaths files) positions := by
  induction files using List.reverseRecOn with
  | nil => exact ⟨[], .nil, .nil⟩
  | append_singleton files file ih =>
    obtain ⟨positions, each, ascending⟩ := ih
    have kept : List.Forall₂ (SecondAt (files ++ [file])) (repeatedPaths files) positions :=
      each.imp fun path position second => secondAppend second [file]
    rw [repeatedAppend]
    split
    · next first =>
      refine ⟨positions ++ [files.length], List.rel_append kept (.cons (secondLast first) .nil), ?_⟩
      refine List.pairwise_append.mpr ⟨ascending, List.pairwise_singleton _ _, ?_⟩
      intro position old last new
      rw [List.mem_singleton.mp new]
      exact secondsInside each position old
    · exact ⟨positions, kept, ascending⟩

structure TellsRepeats (files : List File) (warnings : List Warning) : Prop where
  each : ∀ path, warnings.count (.duplicatePath path) =
    if 2 ≤ (files.map (·.path)).count path then 1 else 0
  placed : ∃ paths positions, warnings = paths.map .duplicatePath ∧ Seconds files paths positions
  none : warnings = [] ↔ resolve files = files

theorem resolvedSame {files : List File} :
    resolve files = files ↔ (files.map (·.path)).Nodup := by
  constructor
  · intro same
    rw [← same]
    exact resolvedOnce files
  · exact resolveDistinct

theorem repeatsTold (files : List File) :
    TellsRepeats files ((repeatedPaths files).map .duplicatePath) := by
  obtain ⟨positions, seconds⟩ := repeatedSeconds files
  refine ⟨fun path => ?_, ⟨_, positions, rfl, seconds⟩, ?_⟩
  · have told : ((repeatedPaths files).map Warning.duplicatePath).count (.duplicatePath path) =
        (repeatedPaths files).count path :=
      List.count_map_of_injective _ _ (fun _ _ same => Warning.duplicatePath.inj same) path
    simp only [told, (repeatedOnce files).count, memRepeated]
  · rw [List.map_eq_nil_iff, repeatedNone, resolvedSame]

example : repeatedPaths [⟨"a", "1"⟩, ⟨"b", "2"⟩, ⟨"c", "3"⟩, ⟨"b", "4"⟩, ⟨"a", "5"⟩, ⟨"b", "6"⟩] =
    ["b", "a"] := by decide

end Scaffold
