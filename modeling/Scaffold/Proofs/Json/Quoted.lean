import Mathlib.Tactic.IntervalCases
import Scaffold.Json.Printer
import Scaffold.Json.Reader

/-!
A quoted text read back: each character is read from what it is escaped to, so that the text ends at the
closing quote and nowhere before it.
-/
namespace Scaffold.Json

theorem readControl (letters : Letters) (rest : List Char) {n : Nat} (small : n < 32) :
    readString letters none (escaped (Char.ofNat n) ++ rest) =
      readString (letters.push (Char.ofNat n)) none rest := by
  interval_cases n <;> rfl

theorem readPlain (letters : Letters) (rest : List Char) {c : Char} (backslash : c ≠ '\\')
    (quote : c ≠ '"') (large : ¬ c.toNat < 32) :
    readString letters none (c :: rest) = readString (letters.push c) none rest := by
  rw [readString]
  · simp [quote, large]
  all_goals simp [backslash]

theorem escapedPlain {c : Char} (backslash : c ≠ '\\') (quote : c ≠ '"') (large : ¬ c.toNat < 32) :
    escaped c = [c] := by
  have plain : ∀ d : Char, d.toNat < 32 → c ≠ d := fun d small equal => large (equal ▸ small)
  have backspace : c.toNat ≠ 8 := by omega
  have feed : c.toNat ≠ 12 := by omega
  simp [escaped, quote, backslash, large, backspace, feed, plain '\n' (by decide),
    plain '\r' (by decide), plain '\t' (by decide)]

theorem escapedVisible (c : Char) : ∀ d ∈ escaped c, ¬ d.toNat < 32 := by
  have visible : (escaped c).all (32 ≤ ·.toNat) = true := by
    by_cases control : c.toNat < 32
    · have all : ∀ n < 32, (escaped (Char.ofNat n)).all (32 ≤ ·.toNat) = true := by decide
      have here := all c.toNat control
      rwa [Char.ofNat_toNat] at here
    by_cases quote : c = '"'
    · subst quote
      decide
    by_cases backslash : c = '\\'
    · subst backslash
      decide
    rw [escapedPlain backslash quote control]
    simpa using control
  intro d member
  simpa using List.all_eq_true.mp visible d member

theorem readEscaped (letters : Letters) (c : Char) (rest : List Char) :
    readString letters none (escaped c ++ rest) = readString (letters.push c) none rest := by
  by_cases control : c.toNat < 32
  · have read := readControl letters rest control
    rwa [Char.ofNat_toNat] at read
  by_cases quote : c = '"'
  · subst quote
    rfl
  by_cases backslash : c = '\\'
  · subst backslash
    rfl
  rw [escapedPlain backslash quote control]
  exact readPlain letters rest backslash quote control

theorem readLetters (letters : List Char) (cs rest : List Char) :
    readString ⟨some letters⟩ none (cs.flatMap escaped ++ '"' :: rest) =
      .closed (some (String.ofList (letters.reverse ++ cs))) rest := by
  induction cs generalizing letters with
  | nil => simp [readString]
  | cons c cs ih =>
    rw [List.flatMap_cons, List.append_assoc, readEscaped]
    exact (ih (c :: letters)).trans (by simp)

theorem readQuoted (s : String) (rest : List Char) :
    ∃ cs, (quoted s).toList = '"' :: cs ∧ openString (cs ++ rest) = .closed (some s) rest := by
  refine ⟨s.toList.flatMap escaped ++ ['"'], String.toList_ofList, ?_⟩
  rw [openString, List.append_assoc]
  exact (readLetters [] s.toList rest).trans (by simp)

theorem quotedVisible (s : String) : ∀ c ∈ (quoted s).toList, ¬ c.toNat < 32 := by
  intro c member
  rw [quoted, String.toList_ofList, List.mem_cons, List.mem_append, List.mem_flatMap] at member
  rcases member with rfl | ⟨d, -, inside⟩ | last
  · decide
  · exact escapedVisible d c inside
  · rw [List.mem_singleton.mp last]
    decide

theorem parseQuoted (s : String) : parse? (quoted s) = some (.string s) := by
  obtain ⟨cs, opened, closed⟩ := readQuoted s []
  rw [List.append_nil] at closed
  have whole : read (quoted s) = ⟨.string (some s), some []⟩ := by
    rw [read, opened, readValue]
    simp [skipSpace, isSpace, closed]
  simp [parse?, whole, skipSpace, Node.toJson, Except.toOption]

theorem quotedInjective {left right : String} : quoted left = quoted right ↔ left = right := by
  refine ⟨fun same => ?_, congrArg quoted⟩
  have parsed := congrArg parse? same
  rw [parseQuoted, parseQuoted] at parsed
  simpa using parsed

end Scaffold.Json
