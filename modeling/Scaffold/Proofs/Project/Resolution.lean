import Scaffold.Proofs.Project.File

/-!
Files that share a path told as a whole: what is resolved of them holds each path where it first occurs,
with its last content, it answers every lookup as the files do, and it is resolved already.
-/
namespace Scaffold

structure Resolves (files resolved : List File) : Prop where
  once : (resolved.map (·.path)).Nodup
  paths : ∀ path, path ∈ resolved.map (·.path) ↔ path ∈ files.map (·.path)
  first : (resolved.map (·.path)).Pairwise fun before after =>
    (files.map (·.path)).idxOf before < (files.map (·.path)).idxOf after
  last : ∀ file ∈ resolved, ∃ front back, files = front ++ file :: back ∧
    ∀ later ∈ back, later.path ≠ file.path
  found : ∀ path file, lastAt? path files = some file ↔ file ∈ resolved ∧ file.path = path
  absent : ∀ path, lastAt? path files = none ↔ path ∉ resolved.map (·.path)
  again : resolve resolved = resolved

theorem putInFresh {file : File} {files : List File} (fresh : file.path ∉ files.map (·.path)) :
    file.putIn files = files ++ [file] := by
  induction files with
  | nil => rfl
  | cons other rest ih =>
    rw [List.map_cons, List.mem_cons, not_or] at fresh
    obtain ⟨different, later⟩ := fresh
    have apart : other.path ≠ file.path := Ne.symm different
    rw [File.putIn, beq_eq_false_iff_ne.mpr apart, ih later]
    rfl

theorem resolveDistinct {files : List File} (once : (files.map (·.path)).Nodup) :
    resolve files = files := by
  induction files using List.reverseRecOn with
  | nil => rfl
  | append_singleton files file ih =>
    rw [List.map_append] at once
    obtain ⟨front, -, apart⟩ := List.nodup_append.mp once
    rw [resolveAppend, ih front]
    exact putInFresh fun old => apart file.path old file.path (by simp) rfl

theorem resolvedPaths {files : List File} {path : String} :
    path ∈ (resolve files).map (·.path) ↔ path ∈ files.map (·.path) := by
  rw [resolvedNames, List.mem_eraseDups]

theorem resolvedFirst (files : List File) : ((resolve files).map (·.path)).Pairwise
    fun before after => (files.map (·.path)).idxOf before < (files.map (·.path)).idxOf after := by
  rw [resolvedNames]
  exact Text.eraseDupsOrder _

theorem lastSplit {path : String} {files : List File} {file : File}
    (found : lastAt? path files = some file) :
    ∃ front back, files = front ++ file :: back ∧ ∀ later ∈ back, later.path ≠ path := by
  obtain ⟨-, after, before, split, passed⟩ := List.find?_eq_some_iff_append.mp found
  refine ⟨before.reverse, after.reverse, ?_, fun later member => ?_⟩
  · simpa using congrArg List.reverse split
  · simpa using passed later (List.mem_reverse.mp member)

theorem lookupResolved {path : String} {files : List File} {file : File} :
    lastAt? path files = some file ↔ file ∈ resolve files ∧ file.path = path := by
  constructor
  · intro found
    obtain ⟨rfl, -⟩ := lastAtPath found
    exact ⟨memResolve.mpr found, rfl⟩
  · rintro ⟨member, rfl⟩
    exact memResolve.mp member

theorem lookupNone {path : String} {files : List File} :
    lastAt? path files = none ↔ path ∉ (resolve files).map (·.path) := by
  simp only [Option.eq_none_iff_forall_ne_some, ne_eq, lookupResolved, List.mem_map, not_exists]

theorem filesResolve (files : List File) : Resolves files (resolve files) where
  once := resolvedOnce files
  paths _ := resolvedPaths
  first := resolvedFirst files
  last _ member := lastSplit (memResolve.mp member)
  found _ _ := lookupResolved
  absent _ := lookupNone
  again := resolveDistinct (resolvedOnce files)

example : resolve [⟨"a", "1"⟩, ⟨"b", "2"⟩, ⟨"a", "3"⟩, ⟨"b", "4"⟩, ⟨"a", "5"⟩] =
    [⟨"a", "5"⟩, ⟨"b", "4"⟩] := by decide

end Scaffold
