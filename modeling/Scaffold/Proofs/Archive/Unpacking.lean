import Mathlib.Algebra.Group.Nat.Defs
import Scaffold.Archive.Reader

/-!
What was packed is read again, entries and directory alike, as long as each name and each content fit the
numbers that say how long they are.
-/
namespace Scaffold.Archive

theorem toListData (bytes : ByteArray) : bytes.toList = bytes.data.toList := by
  have rest : ∀ i read, ByteArray.toList.loop bytes i read =
      read.reverse ++ bytes.data.toList.drop i := by
    intro i read
    fun_induction ByteArray.toList.loop bytes i read with
    | case1 i read inside ih =>
      have listed : i < bytes.data.toList.length := by simpa using inside
      have byte : bytes.get! i = bytes.data.toList[i] := by
        simpa [ByteArray.get!] using getElem!_pos bytes.data i inside
      rw [ih, List.drop_eq_getElem_cons listed, byte]
      simp
    | case2 i read out =>
      have ended : bytes.data.toList.length ≤ i := by simpa using out
      simp [List.drop_eq_nil_of_le ended]
  exact rest 0 []

theorem bytesAgain (bytes : ByteArray) : (⟨bytes.toList.toArray⟩ : ByteArray) = bytes := by
  rw [toListData, Array.toArray_toList]

theorem textAgain (s : String) : String.fromUTF8? s.toUTF8 = some s := by
  simp only [String.fromUTF8?, String.toUTF8_eq_toByteArray, dif_pos s.isValidUTF8]
  rfl

def Item.header (item : Item) : Header :=
  ⟨8, 0, 33, item.crc.toNat, item.packed.length, item.size, item.name.length, 0⟩

def Entry.record (entry : Entry) : Record :=
  ⟨entry.listed, 0o100644⟩

variable {file : File} {files : List File}

theorem nameRead (file : File) : String.fromUTF8? ⟨(Item.ofFile file).name.toArray⟩ = some file.path := by
  rw [Item.ofFile, bytesAgain, textAgain]

end Scaffold.Archive
