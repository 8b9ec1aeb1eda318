import Scaffold.Text.LetterCase

/-!
Text in small letters holds no capital of the Latin alphabet, wherever its characters came from.
-/
namespace Scaffold.Text

theorem isUpperIff {c : Char} : c.isUpper = true ↔ 65 ≤ c.toNat ∧ c.toNat ≤ 90 :=
  decide_eq_true_iff

/- Every run of capitals has its small letters behind `Z`. -/
theorem smallLettersBehind : ∀ run ∈ capitalRuns, 90 < (run.first : Int) + run.shift := by
  decide +kernel

theorem toNatOfNat (n : Nat) : (Char.ofNat n).toNat = n ∨ (Char.ofNat n).toNat = 0 := by
  by_cases valid : n.isValidChar
  · have same : Char.ofNat n = Char.ofNatAux n valid := dif_pos valid
    exact .inl (congrArg Char.toNat same)
  · exact .inr (congrArg Char.toNat (dif_neg valid))

theorem shiftedBehind {run : CapitalRun} (known : run ∈ capitalRuns) {code : Nat}
    (covered : run.covers code = true) :
    90 < (Char.ofNat ((code : Int) + run.shift).toNat).toNat ∨
      (Char.ofNat ((code : Int) + run.shift).toNat).toNat = 0 := by
  simp only [CapitalRun.covers, Bool.and_eq_true, decide_eq_true_eq] at covered
  have behind := smallLettersBehind run known
  rcases toNatOfNat ((code : Int) + run.shift).toNat with same | zero <;> omega

theorem shiftedNoCapital {run : CapitalRun} (known : run ∈ capitalRuns) {code : Nat}
    (covered : run.covers code = true) :
    (Char.ofNat ((code : Int) + run.shift).toNat).isUpper ≠ true := by
  rw [Ne, isUpperIff]
  rcases shiftedBehind known covered with behind | zero <;> omega

theorem smallLettersNoCapital {c d : Char} (member : d ∈ smallLetters c) : d.isUpper ≠ true := by
  unfold smallLetters at member
  split at member
  · rcases List.mem_cons.mp member with rfl | rest
    · decide
    · rw [List.mem_singleton.mp rest]
      decide
  · split at member
    · rename_i run found
      rw [List.mem_singleton.mp member]
      have covered : run.covers c.toNat = true := by simpa using List.find?_some found
      exact shiftedNoCapital (List.mem_of_find?_eq_some found) covered
    · rename_i unknown
      rw [List.mem_singleton.mp member]
      intro capital
      have first : ¬ (⟨0x41, 0x5A, 1, 32⟩ : CapitalRun).covers c.toNat = true :=
        List.find?_eq_none.mp unknown _ List.mem_cons_self
      have bounds := isUpperIff.mp capital
      simp [CapitalRun.covers, bounds, Nat.mod_one] at first

theorem lowerAfterNoCapital {before cs : List Char} {d : Char} (member : d ∈ lowerAfter before cs) :
    d.isUpper ≠ true := by
  induction cs generalizing before with
  | nil => simp [lowerAfter] at member
  | cons c rest ih =>
    rw [lowerAfter, List.mem_append] at member
    rcases member with here | later
    · split at here
      · rw [List.mem_singleton.mp here]
        split <;> decide
      · exact smallLettersNoCapital here
    · exact ih later

theorem lowerNoCapital {s : String} {d : Char} (member : d ∈ (lower s).toList) : d.isUpper ≠ true := by
  rw [lower, String.toList_ofList] at member
  exact lowerAfterNoCapital member

theorem smallLettersFeed {c : Char} (member : '\n' ∈ smallLetters c) : c = '\n' := by
  unfold smallLetters at member
  split at member
  · exact absurd member (by decide)
  · split at member
    · rename_i run found
      have covered : run.covers c.toNat = true := by simpa using List.find?_some found
      have place := shiftedBehind (List.mem_of_find?_eq_some found) covered
      rw [← List.mem_singleton.mp member] at place
      exact absurd place (by decide)
    · exact (List.mem_singleton.mp member).symm

theorem lowerAfterFeed {before cs : List Char} (member : '\n' ∈ lowerAfter before cs) : '\n' ∈ cs := by
  induction cs generalizing before with
  | nil => exact member
  | cons c rest ih =>
    rw [lowerAfter, List.mem_append] at member
    rcases member with here | later
    · split at here
      · split at here <;> exact absurd here (by decide)
      · exact smallLettersFeed here ▸ List.mem_cons_self
    · exact List.mem_cons_of_mem _ (ih later)

theorem lowerFeed {s : String} (member : '\n' ∈ (lower s).toList) : '\n' ∈ s.toList := by
  rw [lower, String.toList_ofList] at member
  exact lowerAfterFeed member

end Scaffold.Text
