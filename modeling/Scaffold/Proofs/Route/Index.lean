import Mathlib.Data.List.Nodup
import Scaffold.Proofs.Route.Slug
import Scaffold.Route.Module

/-!
The route index read line by line: what it imports, and what it registers, are the modules that it
was made of, in their order.
-/
namespace Scaffold.Route
open Text

def importOf? (line : String) : Option (String × String) :=
  match splitAt ' ' line with
  | ["import", binding, "from", source] =>
    ((after? "'./" source).bind (before? "';")).map (binding, ·)
  | _ => none

def registration (binding : String) : String :=
  "router[" ++ binding ++ ".method](" ++ binding ++ ".path, ..." ++ binding ++ ".handler);"

def registrationOf? (line : String) : Option String := do
  let rest ← after? "router[" line
  let binding ← (splitAt '.' rest).head?
  if line == registration binding then some binding else none

def importsOf (text : String) : List (String × String) :=
  (splitAt '\n' text).filterMap importOf?

def registrationsOf (text : String) : List String :=
  (splitAt '\n' text).filterMap registrationOf?

def binding (position : Nat) : String :=
  "route" ++ toString position

def importLine (entry : String × Nat) : String :=
  "import " ++ binding entry.2 ++ " from './" ++ entry.1 ++ "';"

def fixedLines : List String :=
  ["import \x7b Router \x7d from 'express';", "", "const router = Router();", "export default router;"]

def indexLines (modules : List String) : List String :=
  ["import \x7b Router \x7d from 'express';"] ++ modules.zipIdx.map importLine ++
    ["", "const router = Router();", ""] ++
    modules.zipIdx.map (fun entry => registration (binding entry.2)) ++
    ["", "export default router;", ""]

variable {modules : List String}

theorem bindingWord (position : Nat) : IsWord (binding position) := by
  refine wordAppend (wordOfAll (by decide)) fun c digit => ?_
  have digit : c ∈ position.repr.toList := digit
  rw [Nat.toList_repr] at digit
  simp [Char.isAlphanum, Nat.isDigit_of_mem_toDigits (by decide) (by decide) digit]

theorem bindingInjective {left right : Nat} (same : binding left = binding right) :
    left = right := by
  have same : left.repr.toList = right.repr.toList :=
    congrArg String.toList ((String.append_right_inj _).mp same)
  rw [Nat.toList_repr, Nat.toList_repr] at same
  calc left
    _ = Nat.ofDigitChars 10 (Nat.toDigits 10 left) 0 := Nat.ofDigitChars_ten_toDigits.symm
    _ = Nat.ofDigitChars 10 (Nat.toDigits 10 right) 0 := by rw [same]
    _ = right := Nat.ofDigitChars_ten_toDigits

theorem indexTextLines (modules : List String) :
    indexText modules = String.intercalate "\n" (indexLines modules) := by
  have imports : String.join ((modules.zipIdx.map importLine).map ("\n" ++ ·)) =
      String.join (modules.zipIdx.map fun entry =>
        "\nimport " ++ binding entry.2 ++ " from './" ++ entry.1 ++ "';") := by
    simp [Function.comp_def, importLine, ← String.append_assoc]
  have registrations :
      String.join ((modules.zipIdx.map fun entry => registration (binding entry.2)).map
        ("\n" ++ ·)) = String.join (modules.zipIdx.map fun entry =>
          "\nrouter[" ++ binding entry.2 ++ ".method](" ++ binding entry.2 ++ ".path, ..." ++
            binding entry.2 ++ ".handler);") := by
    simp [Function.comp_def, registration, ← String.append_assoc]
  have middle : String.join (["", "const router = Router();", ""].map ("\n" ++ ·)) =
      "\n\nconst router = Router();\n" := by
    simp
  have last : String.join (["", "export default router;", ""].map ("\n" ++ ·)) =
      "\n\nexport default router;\n" := by
    simp
  rw [indexLines, List.append_assoc, List.append_assoc, List.append_assoc, List.singleton_append,
    intercalateJoin]
  simp only [List.map_append, String.join_append, imports, registrations, middle, last]
  unfold indexText
  extract_lets numbered
  rw [← String.append_assoc, ← String.append_assoc, ← String.append_assoc, List.map_map,
    List.map_map]
  rfl

theorem importOfLine {entry : String × Nat} (word : IsWord entry.1) :
    importOf? (importLine entry) = some (binding entry.2, entry.1) := by
  obtain ⟨name, position⟩ := entry
  have bindingFree := wordFree (bindingWord position) (by decide : isWordChar ' ' = false)
  have sourceFree : ' ' ∉ ("'./" ++ name ++ "';").toList := by
    simp [wordFree word (by decide : isWordChar ' ' = false)]
  have line : importLine (name, position) =
      String.intercalate " " ["import", binding position, "from", "'./" ++ name ++ "';"] := by
    simp [importLine, String.intercalate_cons_cons, ← String.toList_inj]
  have cut : splitAt ' ' (importLine (name, position)) =
      ["import", binding position, "from", "'./" ++ name ++ "';"] := by
    rw [line]
    refine splitAtJoin (List.cons_ne_nil _ _) fun piece member => ?_
    simp only [List.mem_cons, List.not_mem_nil, or_false] at member
    rcases member with rfl | rfl | rfl | rfl
    · decide
    · exact bindingFree
    · decide
    · exact sourceFree
  simp only [importOf?, cut]
  rw [String.append_assoc, afterStart, Option.bind_some, beforeLast]
  rfl

example : importOf? "import route0 from './clients';" = some ("route0", "clients") := by
  rfl

theorem registrationParts (binding : String) : registration binding =
    "router[" ++ (binding ++ ("." ++
      ("method](" ++ binding ++ ".path, ..." ++ binding ++ ".handler);"))) := by
  simp [registration, ← String.toList_inj]

theorem registrationOfLine (position : Nat) :
    registrationOf? (registration (binding position)) = some (binding position) := by
  have free := wordFree (bindingWord position) (by decide : isWordChar '.' = false)
  have opened := afterStart "router[" (binding position ++ ("." ++
    ("method](" ++ binding position ++ ".path, ..." ++ binding position ++ ".handler);")))
  rw [← registrationParts] at opened
  have cut := congrArg List.head? (splitAtWord free
    ("method](" ++ binding position ++ ".path, ..." ++ binding position ++ ".handler);"))
  simp only [registrationOf?, opened, bind, Option.bind_some]
  refine (congrArg (Option.bind · _) cut).trans ?_
  simp

theorem importOfRegistration (position : Nat) :
    importOf? (registration (binding position)) = none := by
  have free := wordFree (bindingWord position) (by decide : isWordChar ' ' = false)
  have line : registration (binding position) = String.intercalate " "
      ["router[" ++ binding position ++ ".method](" ++ binding position ++ ".path,",
        "..." ++ binding position ++ ".handler);"] := by
    simp [registration, String.intercalate_cons_cons, ← String.toList_inj]
  have cut : splitAt ' ' (registration (binding position)) =
      ["router[" ++ binding position ++ ".method](" ++ binding position ++ ".path,",
        "..." ++ binding position ++ ".handler);"] := by
    rw [line]
    exact splitAtJoin (List.cons_ne_nil _ _) (by simp [free])
  simp [importOf?, cut]

theorem registrationOfImport (entry : String × Nat) :
    registrationOf? (importLine entry) = none := by
  have other : after? "router[" (importLine entry) = none := by
    simp [after?, importLine]
  simp [registrationOf?, other]

theorem indexLinesFree (words : ∀ name ∈ modules, IsWord name) :
    ∀ line ∈ indexLines modules, '\n' ∉ line.toList := by
  have mark : isWordChar '\n' = false := by decide
  have bound : ∀ position, '\n' ∉ (binding position).toList :=
    fun position => wordFree (bindingWord position) mark
  simp only [indexLines, List.forall_mem_append, List.forall_mem_map]
  refine ⟨⟨⟨⟨by decide, fun entry member => ?_⟩, by decide⟩, fun entry _ => ?_⟩, by decide⟩
  · have name := wordFree (words entry.1 (List.fst_mem_of_mem_zipIdx member)) mark
    simp [importLine, name, bound]
  · simp [registration, bound]

theorem splitIndex (words : ∀ name ∈ modules, IsWord name) :
    splitAt '\n' (indexText modules) = indexLines modules := by
  rw [indexTextLines]
  exact splitAtJoin (List.cons_ne_nil _ _) (indexLinesFree words)

/- Only imports and registrations can be read where the fixed lines give nothing. -/
theorem readIndex {α : Type} {read : String → Option α} (words : ∀ name ∈ modules, IsWord name)
    (fixed : ∀ line ∈ fixedLines, read line = none) :
    (splitAt '\n' (indexText modules)).filterMap read =
      modules.zipIdx.filterMap (fun entry => read (importLine entry)) ++
        modules.zipIdx.filterMap fun entry => read (registration (binding entry.2)) := by
  simp only [fixedLines, List.forall_mem_cons] at fixed
  obtain ⟨opening, empty, router, last, -⟩ := fixed
  rw [splitIndex words, indexLines]
  simp [List.filterMap_append, List.filterMap_map, opening, empty, router, last]

theorem indexImports (words : ∀ name ∈ modules, IsWord name) :
    importsOf (indexText modules) =
      modules.zipIdx.map fun entry => (binding entry.2, entry.1) := by
  have imported : modules.zipIdx.filterMap (fun entry => importOf? (importLine entry)) =
      modules.zipIdx.map fun entry => (binding entry.2, entry.1) := by
    rw [← List.filterMap_eq_map]
    refine List.filterMap_congr fun entry member => ?_
    rw [importOfLine (words entry.1 (List.fst_mem_of_mem_zipIdx member))]
    rfl
  rw [importsOf, readIndex words (by decide), imported]
  simp [importOfRegistration]

theorem indexRegistrations (words : ∀ name ∈ modules, IsWord name) :
    registrationsOf (indexText modules) = (importsOf (indexText modules)).map (·.1) := by
  have registered : modules.zipIdx.filterMap
      (fun entry => registrationOf? (registration (binding entry.2))) =
        modules.zipIdx.map fun entry => binding entry.2 := by
    rw [← List.filterMap_eq_map]
    exact List.filterMap_congr fun entry _ => registrationOfLine entry.2
  rw [indexImports words, registrationsOf, readIndex words (by decide), registered, List.map_map]
  simp [registrationOfImport, Function.comp_def]

theorem indexNames (words : ∀ name ∈ modules, IsWord name) :
    (importsOf (indexText modules)).map (·.2) = modules := by
  rw [indexImports words, List.map_map]
  exact List.zipIdx_map_fst 0 modules

theorem indexBindingsOnce (words : ∀ name ∈ modules, IsWord name) :
    ((importsOf (indexText modules)).map (·.1)).Nodup := by
  have bindings : (importsOf (indexText modules)).map (·.1) =
      (List.range' 0 modules.length).map binding := by
    rw [indexImports words, ← List.zipIdx_map_snd, List.map_map, List.map_map]
    rfl
  rw [bindings]
  exact List.Nodup.map (fun _ _ => bindingInjective) List.nodup_range'

/- Already the first line tells an index and a module apart. -/
theorem indexNoModule (modules : List String) (m : Module) : m.text ≠ indexText modules := by
  intro same
  have module : "import t".toList <+: m.text.toList := by
    simp [Module.text, Module.imports, unlines]
  have index : "import \x7b".toList <+: (indexText modules).toList := by
    have first : indexLines modules = "import \x7b Router \x7d from 'express';" ::
      (indexLines modules).tail := rfl
    have opens : "import \x7b".toList <+: "import \x7b Router \x7d from 'express';".toList := by
      decide
    rw [indexTextLines, first, intercalateJoin, String.toList_append]
    exact opens.trans (List.prefix_append _ _)
  rw [same] at module
  have equal := (List.prefix_of_prefix_length_le module index (by decide)).eq_of_length (by decide)
  revert equal
  decide

end Scaffold.Route
