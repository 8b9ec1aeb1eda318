import Scaffold.Auth
import Scaffold.Proofs.Json.Quoted
import Scaffold.Proofs.Text.Firsts

/-!
The public routes of the middleware. They are those of the webhooks, and then each other path with an open
endpoint where it first occurs; guarded endpoints leave no trace.
-/
namespace Scaffold.Auth
open Text

def openPaths (endpoints : List Endpoint) : List String :=
  (endpoints.filter fun endpoint =>
    !endpoint.authenticated && !webhookRoutes.contains endpoint.path).map (·.path)

def Middleware.literals (m : Middleware) : List String :=
  m.routes.map Json.quoted

inductive Guarding : List Endpoint → List Endpoint → Prop where
  | nil : Guarding [] []
  | same (endpoint : Endpoint) {few many : List Endpoint} (rest : Guarding few many) :
      Guarding (endpoint :: few) (endpoint :: many)
  | more {endpoint : Endpoint} {few many : List Endpoint} (guarded : endpoint.authenticated = true)
      (rest : Guarding few many) : Guarding few (endpoint :: many)

variable {endpoints few many : List Endpoint} {path : String}

theorem publicRoutesConcat (endpoints : List Endpoint) (endpoint : Endpoint) :
    publicRoutes (endpoints ++ [endpoint]) =
      if endpoint.authenticated || (publicRoutes endpoints).contains endpoint.path then
        publicRoutes endpoints
      else publicRoutes endpoints ++ [endpoint.path] := by
  unfold publicRoutes
  cases guarded : endpoint.authenticated <;> simp [List.filter_append, guarded]

theorem openPathsConcat (endpoints : List Endpoint) (endpoint : Endpoint) :
    openPaths (endpoints ++ [endpoint]) =
      if endpoint.authenticated || webhookRoutes.contains endpoint.path then openPaths endpoints
      else openPaths endpoints ++ [endpoint.path] := by
  unfold openPaths
  cases guarded : endpoint.authenticated <;>
    by_cases webhook : endpoint.path ∈ webhookRoutes <;> simp [guarded, webhook]

theorem publicRoutesFirst (endpoints : List Endpoint) :
    publicRoutes endpoints = webhookRoutes ++ (openPaths endpoints).eraseDups := by
  induction endpoints using List.reverseRecOn with
  | nil => rfl
  | append_singleton endpoints endpoint ih =>
    rw [publicRoutesConcat, openPathsConcat, ih]
    cases endpoint.authenticated with
    | true => rfl
    | false =>
      by_cases webhook : endpoint.path ∈ webhookRoutes
      · simp [webhook]
      · by_cases known : endpoint.path ∈ openPaths endpoints <;>
          simp [webhook, known, eraseDupsConcat]

theorem memOpenPaths : path ∈ openPaths endpoints ↔
    path ∉ webhookRoutes ∧ ∃ endpoint ∈ endpoints, endpoint.authenticated = false ∧ endpoint.path = path := by
  simp only [openPaths, List.mem_map, List.mem_filter, Bool.and_eq_true, Bool.not_eq_true',
    List.contains_eq_mem, decide_eq_false_iff_not]
  constructor
  · intro listed
    obtain ⟨endpoint, ⟨member, unguarded, other⟩, rfl⟩ := listed
    exact ⟨other, endpoint, member, unguarded, rfl⟩
  · intro opened
    obtain ⟨other, endpoint, member, unguarded, rfl⟩ := opened
    exact ⟨endpoint, ⟨member, unguarded, other⟩, rfl⟩

theorem memPublicRoutes : path ∈ publicRoutes endpoints ↔ path ∈ webhookRoutes ∨
    ∃ endpoint ∈ endpoints, endpoint.authenticated = false ∧ endpoint.path = path := by
  rw [publicRoutesFirst, List.mem_append, List.mem_eraseDups, memOpenPaths]
  by_cases webhook : path ∈ webhookRoutes <;> simp [webhook]

theorem publicRoutesOnce (endpoints : List Endpoint) : (publicRoutes endpoints).Nodup := by
  rw [publicRoutesFirst]
  refine List.nodup_append.mpr ⟨by decide, eraseDupsOnce _, fun webhook first route later same => ?_⟩
  exact (memOpenPaths.mp (List.mem_eraseDups.mp later)).1 (same ▸ first)

theorem guardingRoutes (guarding : Guarding few many) : publicRoutes few = publicRoutes many := by
  have same : few.filter (!·.authenticated) = many.filter (!·.authenticated) := by
    induction guarding with
    | nil => rfl
    | same endpoint rest ih => simp [List.filter_cons, ih]
    | more guarded rest ih => simp [guarded, ih]
  simp only [publicRoutes, same]

theorem guardingMiddleware (auth : Auth) (guarding : Guarding few many) :
    middleware auth few = middleware auth many := by
  simp only [middleware, guardingRoutes guarding]

/-- The list of public routes of a middleware, told by the endpoints. -/
structure Exact (auth : Auth) (endpoints : List Endpoint) (literals : List String) : Prop where
  written : ∃ before after, (middleware auth endpoints).text = String.join
      ((before ++ literals.map (fun literal => "    " ++ literal ++ ",") ++ after).map (· ++ "\n")) ∧
    before.getLast? = some "  publicRoutes: [" ∧ after.head? = some "  ],"
  distinct : literals.Nodup
  decoded : ∃ others, Firsts (openPaths endpoints) others ∧
    literals.map Json.parse? =
      (["/api/webhook/clerk", "/api/webhook/stripe"] ++ others).map fun path => some (.string path)
  isPublic : ∀ path, path ∉ webhookRoutes → ((∃ literal ∈ literals, Json.parse? literal = some (.string path)) ↔
    ∃ endpoint ∈ endpoints, endpoint.authenticated = false ∧ endpoint.path = path)
  unmoved : ∀ others, Guarding endpoints others ∨ Guarding others endpoints →
    (middleware auth others).literals = literals ∧
      (middleware auth others).text = (middleware auth endpoints).text

theorem textListed (m : Middleware) : ∃ before after,
    m.text = unlines (before ++ m.literals.map (fun literal => "    " ++ literal ++ ",") ++ after) ∧
      before.getLast? = some "  publicRoutes: [" ∧ after.head? = some "  ]," := by
  have parts : ∃ before behind fields, m.text =
      unlines (before ++ m.routes.map (fun route => "    " ++ Json.quoted route ++ ",") ++ behind ++
        fields ++ ["\x7d"]) ∧
      before.getLast? = some "  publicRoutes: [" ∧ behind.head? = some "  ]," :=
    ⟨_, _, _, rfl, by rw [List.getLast?_append]; rfl, rfl⟩
  obtain ⟨before, behind, fields, text, last, first⟩ := parts
  refine ⟨before, behind ++ fields ++ ["\x7d"], ?_, last, by simp [first]⟩
  simp [text, Middleware.literals, Function.comp_def]

theorem literalsParsed (m : Middleware) :
    m.literals.map Json.parse? = m.routes.map fun route => some (.string route) := by
  simp [Middleware.literals, Function.comp_def, Json.parseQuoted]

theorem literalParsed {m : Middleware} :
    (∃ literal ∈ m.literals, Json.parse? literal = some (.string path)) ↔ path ∈ m.routes := by
  simp [Middleware.literals, Json.parseQuoted]

theorem publicRoutesExact (auth : Auth) (endpoints : List Endpoint) :
    Exact auth endpoints (middleware auth endpoints).literals := by
  have routes : (middleware auth endpoints).routes = publicRoutes endpoints := rfl
  refine ⟨textListed _, ?_, ⟨_, eraseDupsFirsts _, ?_⟩, fun path other => ?_, fun others either => ?_⟩
  · exact (publicRoutesOnce endpoints).map fun _ _ => Json.quotedInjective.mp
  · rw [literalsParsed, routes, publicRoutesFirst]
    rfl
  · rw [literalParsed, routes, memPublicRoutes]
    exact or_iff_right other
  · have same : middleware auth others = middleware auth endpoints := by
      rcases either with more | fewer
      · exact (guardingMiddleware auth more).symm
      · exact guardingMiddleware auth fewer
    rw [same]
    exact ⟨rfl, rfl⟩

end Scaffold.Auth
