import Scaffold.Proofs.Config.File
import Scaffold.Proofs.Run.Answers

/-!
Settings loaded from the file that is selected, if one is: they are there exactly when that file can be
read and holds nothing but settings.
-/
namespace Scaffold.Config
open Toml
open Scaffold.Task

inductive Selected (tree : FileTree) (current : Location) :
    (explicit input : Option Path) → Option Path → Prop where
  | explicit {path input} (there : tree.isThere current path = true) :
      Selected tree current (some path) input (some path)
  | beside {input parent} (above : input.parent? = some parent)
      (there : tree.isThere current (parent.push "stackforge.toml") = true) :
      Selected tree current none (some input) (some (parent.push "stackforge.toml"))
  | bare {input} (absent : ∀ path parent, input = some path → path.parent? = some parent →
      tree.isThere current (parent.push "stackforge.toml") = false) :
      Selected tree current none input none

inductive Entered (tree : FileTree) (current : Location) : Option Path → Entries → Prop where
  | standard : Entered tree current none []
  | file {path text entries} (holds : Holds tree current path text)
      (reads : Entries.ofText? text = some entries) (settings : ∀ entry ∈ entries, Setting entry) :
      Entered tree current (some path) entries

variable {tree : FileTree} {current : Location}

theorem besideAnswers (input : Path) :
    Answers (beside input) fun tree current file => Selected tree current none (some input) file := by
  unfold beside
  cases above : input.parent? with
  | none =>
    refine answersWhen (answersPure none) fun tree current file => ⟨?_, fun selected => ?_⟩
    · rintro rfl
      refine .bare fun path parent same known => ?_
      cases same
      rw [above] at known
      contradiction
    · cases selected with
      | beside known _ => rw [above] at known; contradiction
      | bare _ => rfl
  | some parent =>
    refine answersWhen (answersBind (answersIsThere (parent.push fileName)) fun there =>
      answersIf (answersPure (some (parent.push fileName))) (answersPure none))
      fun tree current file => ?_
    simp only [exists_eq_left', fileName]
    constructor
    · split
      · next there =>
        rintro rfl
        exact .beside above there
      · next missing =>
        rintro rfl
        refine .bare fun path other same known => ?_
        cases same
        cases Option.some.inj (above.symm.trans known)
        exact Bool.eq_false_iff.mpr missing
    · intro selected
      cases selected with
      | beside known there =>
        cases Option.some.inj (above.symm.trans known)
        rw [if_pos there]
      | bare absent => rw [if_neg (Bool.eq_false_iff.mp (absent input parent rfl above))]

theorem selectAnswers (explicit input : Option Path) :
    Answers (select explicit input) fun tree current file => Selected tree current explicit input file := by
  unfold select
  cases explicit with
  | some path =>
    refine answersWhen (answersBind (answersIsThere path) fun there =>
      answersIf (answersPure (some path)) (answersThrow _)) fun tree current file => ?_
    simp only [exists_eq_left']
    constructor
    · split
      · next there =>
        rintro rfl
        exact .explicit there
      · exact False.elim
    · rintro ⟨there⟩
      rw [if_pos there]
  | none =>
    cases input with
    | some input => exact besideAnswers input
    | none =>
      refine answersWhen (answersPure none) fun tree current file => ⟨?_, fun selected => ?_⟩
      · rintro rfl
        exact .bare fun _ _ same => nomatch same
      · cases selected
        rfl

theorem loadFileAnswers (path : Path) :
    Answers (loadFile path) fun tree current found =>
      if tree.isThere current path then
        ∃ text config, Holds tree current path text ∧ Config.ofText text = .ok config ∧
          some config = found
      else none = found := by
  unfold loadFile
  refine answersWhen (answersBind (answersIsThere path) fun there => answersIf (answersPure none)
    (answersBind (answersReadText _ path) (?parsed : ∀ text, Answers _ fun _ _ found =>
      ∃ config, Config.ofText text = .ok config ∧ some config = found))) fun tree current found => ?_
  case parsed =>
    intro text
    cases Config.ofText text with
    | ok config => exact answersWhen (answersPure _) fun _ _ _ => by simp
    | error fault => exact answersWhen (answersThrow _) fun _ _ _ => by simp
  cases tree.isThere current path <;> simp

def closing (environment : Environment) (config : Config) : Task Session Config := do
  match strayOrder environment with
  | some raw => Task.note (.orderIgnored raw)
  | none => pure ()
  return config.withEnvironment environment

def loadSelected (environment : Environment) : Option Path → Task Session Config
  | some path => do
    Task.note (.configLoading path)
    closing environment ((← loadFile path).getD {})
  | none => closing environment {}

theorem loadParts (environment : Environment) (explicit input : Option Path) :
    load environment explicit input = select explicit input >>= loadSelected environment := by
  unfold load
  refine congrArg (select explicit input >>= ·) (funext fun selected => ?_)
  cases selected <;> rfl

theorem closingAnswers (environment : Environment) (config : Config) :
    Answers (closing environment config) fun _ _ result =>
      config.withEnvironment environment = result := by
  unfold closing
  cases strayOrder environment with
  | some raw => exact answersWhen (answersBind (answersNote _) fun _ => answersPure _) fun _ _ _ => by simp
  | none => exact answersPure _

theorem selectedThere {explicit input file : Option Path}
    (selected : Selected tree current explicit input file) :
    file.all (tree.isThere current) = true := by
  cases selected with
  | explicit there | beside above there => exact there
  | bare absent => rfl

theorem enteredIff (tree : FileTree) (current : Location) (path : Path) (config : Config) :
    (∃ text, Holds tree current path text ∧ Config.ofText text = .ok config) ↔
      ∃ entries, Entered tree current (some path) entries ∧ ({} : Config).withEntries entries = config := by
  simp only [ofTextIff]
  constructor
  · rintro ⟨text, holds, entries, reads, settings, settled⟩
    exact ⟨entries, .file holds reads settings, settled⟩
  · rintro ⟨entries, entered, settled⟩
    cases entered with
    | file holds reads settings => exact ⟨_, holds, entries, reads, settings, settled⟩

/- The second clause is for a file that has gone since it was selected. -/
theorem loadSelectedAnswers (environment : Environment) (file : Option Path) :
    Answers (loadSelected environment file) fun tree current config =>
      if file.all (tree.isThere current) then
        ∃ entries, Entered tree current file entries ∧
          (({} : Config).withEntries entries).withEnvironment environment = config
      else ({} : Config).withEnvironment environment = config := by
  cases file with
  | none =>
    refine answersWhen (closingAnswers environment {}) fun tree current config => ?_
    rw [Option.all_none, if_pos rfl]
    constructor
    · exact fun settled => ⟨[], .standard, settled⟩
    · rintro ⟨entries, ⟨⟩, settled⟩
      exact settled
  | some path =>
    refine answersWhen (answersBind (answersNote _) fun _ => answersBind (loadFileAnswers path)
      fun found => closingAnswers environment (found.getD {})) fun tree current config => ?_
    have entered := enteredIff tree current path
    cases there : tree.isThere current path with
    | false => simp [there]
    | true =>
      simp only [Option.all_some, there, if_true]
      constructor
      · rintro ⟨_, -, _, ⟨text, found, holds, parsed, rfl⟩, rfl⟩
        obtain ⟨entries, entered, rfl⟩ := (entered found).mp ⟨text, holds, parsed⟩
        exact ⟨entries, entered, rfl⟩
      · rintro ⟨entries, inside, rfl⟩
        obtain ⟨text, holds, parsed⟩ := (entered _).mpr ⟨entries, inside, rfl⟩
        exact ⟨(), trivial, _, ⟨text, _, holds, parsed, rfl⟩, rfl⟩

theorem loadAnswers (environment : Environment) (explicit input : Option Path) :
    Answers (load environment explicit input) fun tree current config =>
      ∃ file entries, Selected tree current explicit input file ∧ Entered tree current file entries ∧
        (({} : Config).withEntries entries).withEnvironment environment = config := by
  rw [loadParts]
  refine answersWhen (answersBind (selectAnswers explicit input) (loadSelectedAnswers environment))
    fun tree current config => ?_
  constructor
  · rintro ⟨file, selected, rest⟩
    rw [if_pos (selectedThere selected)] at rest
    obtain ⟨entries, entered, settled⟩ := rest
    exact ⟨file, entries, selected, entered, settled⟩
  · rintro ⟨file, entries, selected, entered, settled⟩
    refine ⟨file, selected, ?_⟩
    rw [if_pos (selectedThere selected)]
    exact ⟨entries, entered, settled⟩

end Scaffold.Config
