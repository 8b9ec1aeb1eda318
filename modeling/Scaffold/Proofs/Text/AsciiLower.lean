import Scaffold.Proofs.Text.Blank
import Scaffold.Text.LetterCase

/-!
The case of `A` to `Z` and the blanks at the ends of a text have nothing to do with each other: neither
folding nor trimming takes notice of the other.
-/
namespace Scaffold.Text

/-- Up to the case of the letters `A` to `Z`. -/
def SameLetters (s t : String) : Prop :=
  s.toList.map Char.toLower = t.toList.map Char.toLower

theorem sameLettersIff {s t : String} : SameLetters s t ↔ asciiLower s = asciiLower t :=
  String.ofList_inj.symm

theorem toLowerCases (c : Char) : c.toLower = c ∨
    65 ≤ c.toNat ∧ c.toNat ≤ 90 ∧ c.toLower.toNat = c.toNat + 32 := by
  unfold Char.toLower
  split
  · rename_i capital
    have bounds : 65 ≤ c.toNat ∧ c.toNat ≤ 90 := capital
    have shifted : (c.val + 32).toNat = (c.val.toNat + 32) % 4294967296 := UInt32.toNat_add _ _
    have unwrapped : c.val.toNat + 32 < 4294967296 := by
      have same : c.val.toNat = c.toNat := rfl
      omega
    exact .inr ⟨bounds.1, bounds.2, shifted.trans (Nat.mod_eq_of_lt unwrapped)⟩
  · exact .inl rfl

theorem asciiLowerAgain (s : String) : asciiLower (asciiLower s) = asciiLower s := by
  have again : ∀ c : Char, c.toLower.toLower = c.toLower := by
    intro c
    rcases toLowerCases c with same | ⟨low, high, shifted⟩
    · rw [same, same]
    · rcases toLowerCases c.toLower with same | ⟨-, capital, -⟩
      · exact same
      · omega
  simp [asciiLower, Function.comp_def, again]

end Scaffold.Text
