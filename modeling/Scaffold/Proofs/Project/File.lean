import Mathlib.Data.List.Induction
import Mathlib.Data.List.Nodup
import Mathlib.Data.List.Perm.Subperm
import Scaffold.Project.File
import Scaffold.Proofs.Text.Firsts

/-!
Files that share a path: what is resolved of them holds each path once, with the content it had last,
and the paths told as repeated are those that occur more than once.
-/
namespace Scaffold
open Text (eraseDupsConcat eraseDupsOnce)

theorem putInPaths (file : File) (files : List File) :
    (file.putIn files).map (·.path) =
      if file.path ∈ files.map (·.path) then files.map (·.path)
      else files.map (·.path) ++ [file.path] := by
  induction files with
  | nil => simp [File.putIn]
  | cons other rest ih =>
    by_cases same : other.path = file.path
    · simp [File.putIn, same]
    · have different : file.path ≠ other.path := fun equal => same equal.symm
      simp only [File.putIn, beq_iff_eq, same, if_false, List.map_cons, ih, List.mem_cons, different,
        false_or]
      split <;> simp

theorem memPutIn {file other : File} {files : List File} (once : (files.map (·.path)).Nodup) :
    other ∈ file.putIn files ↔ other = file ∨ other ∈ files ∧ other.path ≠ file.path := by
  induction files with
  | nil => simp [File.putIn]
  | cons head rest ih =>
    obtain ⟨fresh, tail⟩ := List.nodup_cons.mp once
    by_cases same : head.path = file.path
    · have apart : ∀ later ∈ rest, later.path ≠ file.path := fun later member equal =>
        fresh (List.mem_map.mpr ⟨later, member, equal.trans same.symm⟩)
      simp only [File.putIn, same, beq_self_eq_true, if_true, List.mem_cons]
      constructor
      · rintro (equal | later)
        · exact .inl equal
        · exact .inr ⟨.inr later, apart other later⟩
      · rintro (equal | ⟨rfl | later, different⟩)
        · exact .inl equal
        · exact absurd same different
        · exact .inr later
    · simp only [File.putIn, beq_iff_eq, same, if_false, List.mem_cons, ih tail]
      constructor
      · rintro (rfl | equal | ⟨later, different⟩)
        · exact .inr ⟨.inl rfl, same⟩
        · exact .inl equal
        · exact .inr ⟨.inr later, different⟩
      · rintro (equal | ⟨rfl | later, different⟩)
        · exact .inr (.inl equal)
        · exact .inl rfl
        · exact .inr (.inr ⟨later, different⟩)

theorem resolveAppend (files : List File) (file : File) :
    resolve (files ++ [file]) = file.putIn (resolve files) := by
  simp [resolve, List.foldl_append]

/- The first file with a path gives it its place. -/
theorem resolvedNames (files : List File) :
    (resolve files).map (·.path) = (files.map (·.path)).eraseDups := by
  induction files using List.reverseRecOn with
  | nil => rfl
  | append_singleton files file ih =>
    rw [resolveAppend, putInPaths, ih, List.map_append, List.map_singleton, eraseDupsConcat]
    simp only [List.mem_eraseDups]

theorem resolvedOnce (files : List File) : ((resolve files).map (·.path)).Nodup := by
  rw [resolvedNames]
  exact eraseDupsOnce _

theorem lastAtAppend (path : String) (files : List File) (file : File) :
    lastAt? path (files ++ [file]) =
      if file.path = path then some file else lastAt? path files := by
  by_cases same : file.path = path <;> simp [lastAt?, same]

theorem lastAtSplit (path : String) (front back : List File) :
    lastAt? path (front ++ back) = (lastAt? path back).or (lastAt? path front) := by
  simp [lastAt?]

theorem lastAtPath {path : String} {files : List File} {file : File}
    (found : lastAt? path files = some file) : file.path = path ∧ file ∈ files :=
  ⟨by simpa using List.find?_some found, List.mem_reverse.mp (List.mem_of_find?_eq_some found)⟩

theorem memResolve {files : List File} {file : File} :
    file ∈ resolve files ↔ lastAt? file.path files = some file := by
  induction files using List.reverseRecOn with
  | nil => simp [resolve, lastAt?]
  | append_singleton files last ih =>
    rw [resolveAppend, memPutIn (resolvedOnce files), lastAtAppend, ih]
    by_cases same : last.path = file.path
    · simp [same, eq_comm]
    · have different : file.path ≠ last.path := fun equal => same equal.symm
      have other : file ≠ last := fun equal => different (congrArg File.path equal)
      simp [same, different, other]

theorem lastAtExists {files : List File} {file : File} (member : file ∈ files) :
    ∃ final, lastAt? file.path files = some final := by
  refine Option.isSome_iff_exists.mp (List.find?_isSome.mpr ⟨file, ?_, ?_⟩)
  · exact List.mem_reverse.mpr member
  · simp

theorem resolvedExists {files : List File} {file : File} (member : file ∈ files) :
    ∃ final ∈ resolve files, final.path = file.path ∧ final ∈ files := by
  obtain ⟨final, found⟩ := lastAtExists member
  obtain ⟨same, inside⟩ := lastAtPath found
  exact ⟨final, memResolve.mpr (by rw [same]; exact found), same, inside⟩

theorem resolvedUnique {files : List File} {file : File} (member : file ∈ files)
    (only : ∀ other ∈ files, other.path = file.path → other = file) : file ∈ resolve files := by
  obtain ⟨final, resolved, same, inside⟩ := resolvedExists member
  rw [← only final inside same]
  exact resolved

theorem noteSeen (log : PathLog) (file : File) (path : String) :
    path ∈ (log.note file).seen ↔ path ∈ log.seen ∨ path = file.path := by
  simp only [PathLog.note, Bool.not_eq_true', List.contains_eq_mem, decide_eq_true_eq,
    decide_eq_false_iff_not]
  split
  · simp [or_comm]
  · rename_i met
    have old : path = file.path → path ∈ log.seen := by rintro rfl; simpa using met
    split <;> exact ⟨.inl, fun either => either.elim id old⟩

theorem noteAgain (log : PathLog) (file : File) (path : String) :
    path ∈ (log.note file).again ↔
      path ∈ log.again ∨ path = file.path ∧ file.path ∈ log.seen := by
  simp only [PathLog.note, Bool.not_eq_true', List.contains_eq_mem, decide_eq_true_eq,
    decide_eq_false_iff_not]
  split
  · rename_i fresh
    simp [fresh]
  · rename_i met
    have met : file.path ∈ log.seen := by simpa using met
    split
    · rename_i reported
      have old : path = file.path → path ∈ log.again := by rintro rfl; exact reported
      exact ⟨.inl, fun either => either.elim id fun new => old new.1⟩
    · simp [met]

structure PathLog.Tells (log : PathLog) (paths : List String) : Prop where
  seen : ∀ path, path ∈ log.seen ↔ 1 ≤ paths.count path
  again : ∀ path, path ∈ log.again ↔ 2 ≤ paths.count path

theorem noteTells {log : PathLog} {paths : List String} (told : log.Tells paths) (file : File) :
    (log.note file).Tells (paths ++ [file.path]) := by
  refine ⟨fun path => ?_, fun path => ?_⟩
  · rw [noteSeen, told.seen, List.count_append]
    by_cases same : path = file.path
    · simp [same]
    · simp [same, Ne.symm same]
  · rw [noteAgain, told.again, told.seen, List.count_append]
    by_cases same : path = file.path
    · rw [same, List.count_singleton_self, eq_self_iff_true, true_and]
      omega
    · simp [same, Ne.symm same]

theorem logTells (files : List File) :
    (files.foldl PathLog.note {}).Tells (files.map (·.path)) := by
  induction files using List.reverseRecOn with
  | nil => exact ⟨by simp, by simp⟩
  | append_singleton files file ih =>
    rw [List.foldl_append, List.map_append]
    exact noteTells ih file

theorem memRepeated {files : List File} {path : String} :
    path ∈ repeatedPaths files ↔ 2 ≤ (files.map (·.path)).count path :=
  (logTells files).again path

theorem repeatedNone {files : List File} :
    repeatedPaths files = [] ↔ (files.map (·.path)).Nodup := by
  simp only [List.eq_nil_iff_forall_not_mem, memRepeated, List.nodup_iff_count_le_one]
  exact forall_congr' fun path => by omega

/- Contents play no part in what is told as repeated. -/
theorem repeatedSame {files others : List File}
    (paths : files.map (·.path) = others.map (·.path)) : repeatedPaths files = repeatedPaths others := by
  have byPath : ∀ files : List File, repeatedPaths files =
      ((files.map (·.path)).foldl (fun log path => log.note ⟨path, ""⟩) ({} : PathLog)).again := by
    intro files
    rw [List.foldl_map]
    rfl
  rw [byPath, byPath, paths]

theorem repeatedOfTwo {files : List File} {file other : File} (left : file ∈ files)
    (right : other ∈ files) (same : other.path = file.path) (different : other ≠ file) :
    file.path ∈ repeatedPaths files := by
  rw [memRepeated]
  obtain ⟨both, perm, inside⟩ : [file, other].Subperm files :=
    List.subperm_of_subset (by simp [Ne.symm different]) (by simp [left, right])
  calc
    2 = ([file, other].map (·.path)).count file.path := by simp [same]
    _ = (both.map (·.path)).count file.path := ((perm.map _).count_eq _).symm
    _ ≤ (files.map (·.path)).count file.path := (inside.map _).count_le _

end Scaffold
