import Scaffold.Proofs.Route.Handler
import Scaffold.Proofs.Route.Normal

/-!
The names that a route module imports, beside those that it binds itself. The schema is named apart from all of
them; the handler takes one of them exactly when the path is nothing but that name.
-/
namespace Scaffold.Route
open Text

def namesImported (line : String) : List String :=
  let inside := (((splitAt ' ' line).dropWhile (· != "\x7b")).drop 1).takeWhile (· != "\x7d")
  (inside.filter (· != "type")).map fun word => String.ofList (word.toList.filter (· != ','))

def strictNames : List String :=
  ["eval", "arguments"]

namespace Module

def imported (m : Module) : List String :=
  m.imports.flatMap namesImported

def handlerLine (m : Module) : String :=
  "export const " ++ m.handler ++ " = async (req: " ++
    (if m.authenticated then "AuthenticatedRequest" else "Request") ++ ", res: Response) => \x7b"

def taken (m : Module) : List String :=
  m.imported ++ strictNames

theorem importedNames (m : Module) : m.imported =
    (if m.authenticated then ["Response"] else ["Request", "Response"]) ++
      (if m.method.addressesRecord then ["Prisma"] else []) ++
      (if m.method.takesBody then ["z"] else []) ++ ["prisma"] ++
      (if m.authenticated then ["requireAuth", "AuthenticatedRequest"] else []) := by
  have express : namesImported "import type \x7b Response \x7d from 'express';" = ["Response"] := by
    decide +kernel
  have both : namesImported "import type \x7b Request, Response \x7d from 'express';" =
      ["Request", "Response"] := by decide +kernel
  have client : namesImported "import \x7b Prisma \x7d from '@prisma/client';" = ["Prisma"] := by
    decide +kernel
  have schema : namesImported "import \x7b z \x7d from 'zod';" = ["z"] := by decide +kernel
  have database : namesImported "import \x7b prisma \x7d from '@/lib/prisma';" = ["prisma"] := by
    decide +kernel
  have guard : namesImported
      "import \x7b requireAuth, type AuthenticatedRequest \x7d from '@/middleware/auth';" =
        ["requireAuth", "AuthenticatedRequest"] := by decide +kernel
  unfold imported imports
  cases m.method <;> cases m.authenticated <;>
    simp [Method.addressesRecord, Method.takesBody, express, both, client, schema, database, guard]

end Module

def PlainName (name : String) : Prop :=
  name.toList.all Char.isAlpha = true ∧ name ∉ "" :: "root" :: reservedWords

instance (name : String) : Decidable (PlainName name) :=
  inferInstanceAs (Decidable (_ ∧ _))

inductive Alone (path name : String) : Prop where
  | word (whole : filled path = [name])
  | parameter {segment} (whole : filled path = [segment]) (spelling : Spelling name segment)

variable {path name segment : String} {endpoint : Endpoint}

theorem takenPlain (m : Module) : ∀ name ∈ m.taken, PlainName name := by
  rw [Module.taken, Module.importedNames]
  cases m.method <;> cases m.authenticated <;> decide +kernel

theorem takenEnding (m : Module) : ∀ name ∈ m.taken, ¬ "Schema".toList <:+ name.toList := by
  rw [Module.taken, Module.importedNames]
  cases m.method <;> cases m.authenticated <;> decide +kernel

theorem plainWord (plain : PlainName name) : IsWord name := by
  intro c member
  have letter := List.all_eq_true.mp plain.1 c member
  simp [Char.isAlphanum, letter]

theorem plainFree (plain : PlainName name) {c : Char} (mark : c.isAlpha = false) : c ∉ name.toList := by
  intro member
  rw [List.all_eq_true.mp plain.1 c member] at mark
  contradiction

theorem sanitizePlain (plain : PlainName name) : sanitize segment = name ↔ segment = name := by
  constructor
  · intro same
    -- an underscore in place of another character would be in the name
    have word : IsWord segment := by
      refine isWordIff.mpr fun c member => ?_
      by_contra other
      have marked : '_' ∈ (sanitize segment).toList := by
        rw [sanitize, String.toList_ofList]
        exact List.mem_map.mpr ⟨c, member, if_neg other⟩
      rw [same] at marked
      exact plainFree plain (by decide) marked
    rw [← same, sanitizeSame.mpr word]
  · rintro rfl
    exact sanitizeSame.mpr (plainWord plain)

theorem slugPlain (plain : PlainName name) :
    slug path = name ↔ ∃ segment, filled path = [segment] ∧ segmentName segment = name := by
  have joined : slug path =
      if (String.intercalate "_" ((filled path).map segmentName)).isEmpty then "root"
      else String.intercalate "_" ((filled path).map segmentName) := rfl
  have other : name ≠ "" ∧ name ≠ "root" := by
    have apart := plain.2
    simp only [List.mem_cons, not_or] at apart
    exact ⟨apart.1, apart.2.1⟩
  rw [joined]
  cases filled path with
  | nil => simpa using other.2.symm
  | cons first rest =>
    cases rest with
    | nil =>
      rw [List.map_singleton, String.intercalate_singleton]
      split
      · next empty =>
        rw [String.isEmpty_iff] at empty
        simp [empty, other.1.symm, other.2.symm]
      · simp
    | cons second rest =>
      -- two names are joined by an underscore, which the plain name has not
      refine iff_of_false (fun same => ?_) (by simp)
      rw [List.map_cons, List.map_cons, String.intercalate_cons_cons, if_neg (by simp)] at same
      exact plainFree plain (by decide : '_'.isAlpha = false) (by simp [← same])

theorem plainBindable (plain : PlainName name) : Bindable name := by
  have apart := plain.2
  simp only [List.mem_cons, not_or] at apart
  cases text : name.toList with
  | nil => exact absurd (String.toList_eq_nil_iff.mp text) apart.1
  | cons first rest =>
    have letter := List.all_eq_true.mp plain.1 first (by simp [text])
    exact bindableOpens text (.inl letter) (plainWord plain) apart.2.2

theorem slugAlone (plain : PlainName name) : slug path = name ↔ Alone path name := by
  rw [slugPlain plain]
  constructor
  · rintro ⟨segment, whole, named⟩
    cases spelled : parameter? segment with
    | none =>
      rw [segmentName, spelled, Option.getD_none, sanitizePlain plain] at named
      exact .word (named ▸ whole)
    | some inner =>
      rw [segmentName, spelled, Option.getD_some, sanitizePlain plain] at named
      exact .parameter whole (spellingIff.mpr (named ▸ spelled))
  · intro alone
    cases alone with
    | word whole =>
      refine ⟨name, whole, ?_⟩
      rw [segmentName, parameterWord (plainWord plain), Option.getD_none, sanitizePlain plain]
    | parameter whole spelling =>
      refine ⟨_, whole, ?_⟩
      rw [segmentName, spellingIff.mp spelling, Option.getD_some, sanitizePlain plain]

theorem handlerPlain (plain : PlainName name) : handlerName (slug path) = name ↔ slug path = name := by
  rcases handlerCases (slugWord path) (slugSome path) with ⟨bindable, named⟩ | ⟨unbindable, named⟩
  · rw [named]
  · rw [named]
    refine iff_of_false (fun same => ?_) (fun same => ?_)
    · exact plainFree plain (by decide : '_'.isAlpha = false) (by simp [← same])
    · exact unbindable (same ▸ plainBindable plain)

structure Module.BindsApart (m : Module) : Prop where
  imported : m.handler ∉ m.imported
  strict : m.handler ≠ "eval" ∧ m.handler ≠ "arguments"

theorem bindsApartIff (m : Module) : m.BindsApart ↔ m.handler ∉ m.taken := by
  rw [Module.taken, List.mem_append, not_or, strictNames]
  simp only [List.mem_cons, List.not_mem_nil, or_false, not_or]
  exact ⟨fun apart => ⟨apart.imported, apart.strict⟩, fun apart => ⟨apart.1, apart.2⟩⟩

structure Module.Binds (m : Module) : Prop where
  imports : ∃ rest, m.text = unlines (m.imports ++ rest)
  handler : contains m.text (m.handlerLine ++ "\n") = true
  schema : m.schema ∉ m.taken ∧ m.schema ≠ m.handler

theorem textParts (m : Module) : ∃ after, m.text = unlines (m.imports ++ [""] ++ m.comments ++
    m.bodySchema ++ "" :: m.handlerLine :: after) :=
  ⟨_, by simp only [Module.text, List.append_assoc]; rfl⟩

theorem moduleBinds (m : Module) : m.Binds where
  imports := by
    obtain ⟨after, text⟩ := textParts m
    simp only [List.append_assoc] at text
    exact ⟨_, text⟩
  handler := by
    obtain ⟨after, text⟩ := textParts m
    rw [text]
    exact unlinesHolds (by simp)
  schema := by
    refine ⟨fun taken => ?_, fun same => ?_⟩
    · exact takenEnding m _ taken (by simp [Module.schema])
    · have longer := congrArg String.length same
      simp [Module.schema] at longer

theorem handlerApart (endpoint : Endpoint) (table : Table) :
    (moduleFor endpoint table).Binds ∧
      ((moduleFor endpoint table).BindsApart ↔
        ∀ name ∈ (moduleFor endpoint table).taken, ¬ Alone endpoint.path name) := by
  have handler : (moduleFor endpoint table).handler = handlerName (slug endpoint.path) := by
    simp only [moduleFor]
  refine ⟨moduleBinds _, ?_⟩
  rw [bindsApartIff, handler]
  constructor
  · intro apart name member alone
    have plain := takenPlain _ name member
    rw [← slugAlone plain, ← handlerPlain plain] at alone
    exact apart (alone ▸ member)
  · intro apart member
    have plain := takenPlain _ _ member
    exact apart _ member ((slugAlone plain).mp ((handlerPlain plain).mp rfl))

/- The first is a name of the module's imports, the second one that no strict code may bind. -/
theorem handlerClashes :
    ¬ (moduleFor { path := "/prisma", method := .get } ⟨"Prisma", [], []⟩).BindsApart ∧
    ¬ (moduleFor { path := "/\x7beval\x7d", method := .get } ⟨"Eval", [], []⟩).BindsApart := by
  refine ⟨fun apart => ?_, fun apart => ?_⟩
  · exact absurd apart.imported (by decide +kernel)
  · exact absurd apart.strict (by decide +kernel)

end Scaffold.Route
