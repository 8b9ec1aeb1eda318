import Mathlib.Data.List.Nodup
import Scaffold.Toml.Reader

/-!
A TOML text defines each of its keys once: whatever a line adds takes the place of the entry of its
name, or comes last under a new one.
-/
namespace Scaffold.Toml

def Distinct (entries : Entries) : Prop :=
  (entries.map (·.1)).Nodup

namespace Entries

theorem putKeys (name : String) (item : Item) (entries : Entries) :
    (put name item entries).map (·.1) =
      if name ∈ entries.map (·.1) then entries.map (·.1) else entries.map (·.1) ++ [name] := by
  induction entries with
  | nil => simp [put]
  | cons entry rest ih =>
    by_cases same : entry.1 = name
    · simp [put, same]
    · have different : name ≠ entry.1 := fun equal => same equal.symm
      simp only [put, beq_iff_eq, same, if_false, List.map_cons, ih, List.mem_cons, different, false_or]
      split <;> simp

theorem putDistinct {name : String} {item : Item} {entries : Entries} (distinct : Distinct entries) :
    Distinct (put name item entries) := by
  rw [Distinct, putKeys]
  split
  · exact distinct
  · next fresh =>
    rw [← List.concat_eq_append]
    exact List.Nodup.concat fresh distinct

def KeepsDistinct (change : Entries → Option Entries) : Prop :=
  ∀ entries changed, Distinct entries → change entries = some changed → Distinct changed

/- The entry that is put is of no account here, only that it goes under the name. -/
theorem putsKeep (name : String) {change : Entries → Option Entries}
    (puts : ∀ entries changed, change entries = some changed →
      ∃ item, changed = put name item entries) : KeepsDistinct change := by
  intro entries changed distinct went
  obtain ⟨item, rfl⟩ := puts entries changed went
  exact putDistinct distinct

theorem withinDistinct {dotted : Bool} {change : Origin → Entries → Option Entries}
    (keeps : ∀ origin, KeepsDistinct (change origin)) (path : List String) (origin : Origin) :
    KeepsDistinct (within dotted change path origin) := by
  cases path with
  | nil => exact keeps origin
  | cons name path =>
    -- whatever becomes of the inner table, it is put under its name
    refine putsKeep name fun entries changed went => ?_
    rw [within] at went
    split at went
    · obtain ⟨inner, -, last⟩ := Option.bind_eq_some_iff.mp went
      exact ⟨_, (Option.some.inj last).symm⟩
    · split at went
      · contradiction
      · obtain ⟨inner, -, last⟩ := Option.bind_eq_some_iff.mp went
        exact ⟨_, (Option.some.inj last).symm⟩
    · obtain ⟨latest, -, last⟩ := Option.bind_eq_some_iff.mp went
      exact ⟨_, (Option.some.inj last).symm⟩
    · contradiction

theorem assignDistinct (path : List String) (name : String) (item : Item) :
    KeepsDistinct (assign path name item) := by
  refine withinDistinct (fun origin => putsKeep name fun entries changed went => ?_) path .header
  split at went
  · contradiction
  · exact ⟨item, (Option.some.inj went).symm⟩

theorem openTableDistinct (name : String) : KeepsDistinct (openTable name) := by
  refine putsKeep name fun entries changed went => ?_
  unfold openTable at went
  split at went
  · exact ⟨_, (Option.some.inj went).symm⟩
  · exact ⟨_, (Option.some.inj went).symm⟩
  · contradiction

theorem openNextDistinct (name : String) : KeepsDistinct (openNext name) := by
  refine putsKeep name fun entries changed went => ?_
  unfold openNext at went
  split at went
  · exact ⟨_, (Option.some.inj went).symm⟩
  · exact ⟨_, (Option.some.inj went).symm⟩
  · contradiction

end Entries

theorem addDistinct {filling filled : Filling} {line : Line} (distinct : Distinct filling.entries)
    (went : filling.add line = some filled) : Distinct filled.entries := by
  cases line with
  | header path name =>
    obtain ⟨entries, within, last⟩ := Option.bind_eq_some_iff.mp went
    cases last
    have keeps := fun _ : Origin => Entries.openTableDistinct name
    exact Entries.withinDistinct keeps path .header _ _ distinct within
  | nextHeader path name =>
    obtain ⟨entries, within, last⟩ := Option.bind_eq_some_iff.mp went
    cases last
    have keeps := fun _ : Origin => Entries.openNextDistinct name
    exact Entries.withinDistinct keeps path .header _ _ distinct within
  | assignment path name item =>
    obtain ⟨entries, within, last⟩ := Option.bind_eq_some_iff.mp went
    cases last
    have keeps := fun _ : Origin => Entries.assignDistinct path name item
    exact Entries.withinDistinct keeps _ .header _ _ distinct within

theorem linesDistinct {lines : List Line} {filling filled : Filling}
    (distinct : Distinct filling.entries) (went : lines.foldlM Filling.add filling = some filled) :
    Distinct filled.entries := by
  induction lines generalizing filling with
  | nil =>
    cases went
    exact distinct
  | cons line lines ih =>
    obtain ⟨next, first, rest⟩ := Option.bind_eq_some_iff.mp went
    exact ih (addDistinct distinct first) rest

theorem textDistinct {s : String} {entries : Entries} (reads : Entries.ofText? s = some entries) :
    Distinct entries := by
  obtain ⟨lines, -, last⟩ := Option.bind_eq_some_iff.mp reads
  obtain ⟨filled, went, rfl⟩ := Option.map_eq_some_iff.mp last
  have empty : Distinct ({} : Filling).entries := List.nodup_nil
  exact linesDistinct empty went

theorem lookupFresh {name : String} {item : Item} {rest : Entries}
    (distinct : Distinct ((name, item) :: rest)) : rest.lookup name = none := by
  refine List.lookup_eq_none_iff.mpr fun entry member => ?_
  have fresh : name ∉ rest.map (·.1) := (List.nodup_cons.mp distinct).1
  exact bne_iff_ne.mpr fun same : name = entry.1 =>
    fresh (same ▸ List.mem_map_of_mem member)

end Scaffold.Toml
