import Scaffold.Proofs.Route.Slug
import Scaffold.Proofs.Text.Lower
import Scaffold.Route.Module

/-!
The names that a route module binds: its handler's, and its schema's. The handler is named after the module,
with an underscore where no constant can have that name.
-/
namespace Scaffold.Route
open Text (isUpperIff)

/-- The words that ECMAScript reserves everywhere, and those that it reserves in strict code. -/
def keywords : List String :=
  ["await", "break", "case", "catch", "class", "const", "continue", "debugger", "default", "delete", "do",
    "else", "enum", "export", "extends", "false", "finally", "for", "function", "if", "import", "in",
    "instanceof", "new", "null", "return", "super", "switch", "this", "throw", "true", "try", "typeof",
    "var", "void", "while", "with", "yield"]

def strictKeywords : List String :=
  ["implements", "interface", "let", "package", "private", "protected", "public", "static"]

structure Bindable (name : String) : Prop where
  opens : ∃ first rest, name.toList = first :: rest ∧ (first.isAlpha = true ∨ first = '_')
  word : IsWord name
  ascii : ∀ c ∈ name.toList, c.toNat < 128
  free : name ∉ keywords ++ strictKeywords

structure HandlerNamed (name handler : String) : Prop where
  bindable : Bindable handler
  schema : Bindable (handler ++ "Schema")
  kept : Bindable name → handler = name
  marked : ¬ Bindable name → handler = "_" ++ name
  bound : ∀ endpoint table, slug endpoint.path = name →
    (moduleFor endpoint table).handler = handler ∧
      (moduleFor endpoint table).schema = handler ++ "Schema"

variable {name : String}

theorem isDigitIff {c : Char} : c.isDigit = true ↔ 48 ≤ c.toNat ∧ c.toNat ≤ 57 := by
  unfold Char.isDigit
  rw [Bool.and_eq_true, decide_eq_true_iff, decide_eq_true_iff]
  rfl

theorem isLowerIff {c : Char} : c.isLower = true ↔ 97 ≤ c.toNat ∧ c.toNat ≤ 122 := by
  unfold Char.isLower
  rw [Bool.and_eq_true, decide_eq_true_iff, decide_eq_true_iff]
  rfl

theorem isAlphaIff {c : Char} :
    c.isAlpha = true ↔ 65 ≤ c.toNat ∧ c.toNat ≤ 90 ∨ 97 ≤ c.toNat ∧ c.toNat ≤ 122 := by
  unfold Char.isAlpha
  rw [Bool.or_eq_true, isUpperIff, isLowerIff]

theorem wordCharAscii {c : Char} (word : isWordChar c = true) : c.toNat < 128 := by
  unfold isWordChar Char.isAlphanum at word
  rw [Bool.or_eq_true, Bool.or_eq_true, isAlphaIff, isDigitIff, beq_iff_eq] at word
  rcases word with letter | underscore
  · omega
  · subst underscore
    decide

theorem digitNoLetter {c : Char} (digit : c.isDigit = true) : ¬ (c.isAlpha = true ∨ c = '_') := by
  rw [isDigitIff] at digit
  rw [isAlphaIff]
  intro letter
  rcases letter with letter | underscore
  · omega
  · subst underscore
    exact absurd digit (by decide)

/- What a name opens with, and what it ends in, tells it from every reserved word. -/
theorem reservedOpening : ∀ word ∈ reservedWords, word.toList.head? ≠ some '_' := by
  decide +kernel

theorem reservedEnding : ∀ word ∈ reservedWords, ¬ "Schema".toList <:+ word.toList := by
  decide +kernel

theorem reservedIff : name ∈ reservedWords ↔ name ∈ keywords ++ strictKeywords := by
  have into : ∀ word ∈ reservedWords, word ∈ keywords ++ strictKeywords := by decide +kernel
  have outOf : ∀ word ∈ keywords ++ strictKeywords, word ∈ reservedWords := by decide +kernel
  exact ⟨into name, outOf name⟩

theorem bindableOpens {first : Char} {rest : List Char} (text : name.toList = first :: rest)
    (letter : first.isAlpha = true ∨ first = '_') (word : IsWord name)
    (free : name ∉ reservedWords) : Bindable name where
  opens := ⟨first, rest, text, letter⟩
  word := word
  ascii c member := wordCharAscii (isWordIff.mp word c member)
  free := reservedIff.not.mp free

theorem bindableIff (word : IsWord name) (some : name ≠ "") :
    Bindable name ↔ startsWithDigit name = false ∧ name ∉ reservedWords := by
  cases text : name.toList with
  | nil => exact absurd (String.toList_eq_nil_iff.mp text) some
  | cons first rest =>
    have starts : startsWithDigit name = first.isDigit := by simp [startsWithDigit, text]
    rw [starts]
    constructor
    · intro bindable
      obtain ⟨other, tail, same, letter⟩ := bindable.opens
      rw [text] at same
      cases same
      exact ⟨Bool.eq_false_iff.mpr fun digit => digitNoLetter digit letter,
        reservedIff.not.mpr bindable.free⟩
    · intro plain
      have char := word first (by simp [text])
      unfold Char.isAlphanum at char
      rw [plain.1, Bool.or_false] at char
      exact bindableOpens text char word plain.2

theorem markedBindable (word : IsWord name) : Bindable ("_" ++ name) := by
  have text : ("_" ++ name).toList = '_' :: name.toList := by simp
  refine bindableOpens text (.inr rfl) (wordAppend (wordOfAll (by decide)) word) fun reserved => ?_
  exact reservedOpening _ reserved (by simp)

theorem schemaBindable (bindable : Bindable name) : Bindable (name ++ "Schema") := by
  obtain ⟨first, rest, text, letter⟩ := bindable.opens
  have longer : (name ++ "Schema").toList = first :: (rest ++ "Schema".toList) := by
    rw [String.toList_append, text]
    rfl
  refine bindableOpens longer letter (wordAppend bindable.word (wordOfAll (by decide))) fun reserved => ?_
  exact reservedEnding _ reserved (by simp)

theorem handlerCases (word : IsWord name) (some : name ≠ "") :
    (Bindable name ∧ handlerName name = name) ∨
      (¬ Bindable name ∧ handlerName name = "_" ++ name) := by
  rw [bindableIff word some]
  unfold handlerName
  split
  · next marked =>
    right
    simp only [Bool.or_eq_true, List.contains_iff_mem] at marked
    refine ⟨?_, rfl⟩
    rcases marked with digit | reserved
    · simp [digit]
    · simp [reserved]
  · next plain =>
    left
    simpa using plain

theorem handlerNamed (path : String) : HandlerNamed (slug path) (handlerName (slug path)) := by
  have word := slugWord path
  have bound : ∀ endpoint table, slug endpoint.path = slug path →
      (moduleFor endpoint table).handler = handlerName (slug path) ∧
        (moduleFor endpoint table).schema = handlerName (slug path) ++ "Schema" := by
    intro endpoint table same
    have handler : (moduleFor endpoint table).handler = handlerName (slug path) := by
      simp only [moduleFor, same]
    exact ⟨handler, by rw [Module.schema, handler]⟩
  rcases handlerCases word (slugSome path) with ⟨bindable, named⟩ | ⟨unbindable, named⟩
  · rw [named] at bound ⊢
    exact ⟨bindable, schemaBindable bindable, fun _ => rfl, fun unbindable => absurd bindable unbindable,
      bound⟩
  · rw [named] at bound ⊢
    have marked := markedBindable word
    exact ⟨marked, schemaBindable marked, fun bindable => absurd bindable unbindable, fun _ => rfl, bound⟩

example : ["/2fa", "/delete/", "/\x7bnew\x7d", "/news"].map (fun path => handlerName (slug path)) =
    ["_2fa", "_delete", "_new", "news"] := by decide +kernel

end Scaffold.Route
