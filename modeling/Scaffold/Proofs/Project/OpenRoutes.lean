import Scaffold.Proofs.Auth.PublicRoutes
import Scaffold.Proofs.Project.Endpoints
import Scaffold.Proofs.Route.Record

/-!
The routes that the middleware leaves open, and the path that the module of an open endpoint registers.
The middleware lists the declared paths and the modules register respelled ones, so that an open
endpoint is reached without signing in where both are the same.
-/
namespace Scaffold.Project
open Auth (memPublicRoutes)
open Route (Colonised addressesIff moduleFor owner? recordPathSame routerPathSame segments)

variable {backend : Backend} {config : Config} {endpoint : Endpoint} {table : Table}

structure RouterSpelled (endpoint : Endpoint) : Prop where
  colonised : Colonised endpoint.path
  named : endpoint.method = .put ∨ endpoint.method = .delete →
    ∃ segment ∈ segments endpoint.path, ∃ name, segment = ":" ++ name

theorem registeredSame (endpoint : Endpoint) (table : Table) :
    (moduleFor endpoint table).route = endpoint.path ↔ RouterSpelled endpoint := by
  cases record : endpoint.method.addressesRecord with
  | false =>
    have route : (moduleFor endpoint table).route = Route.routerPath endpoint.path := by
      simp [moduleFor, record]
    rw [route, routerPathSame]
    refine ⟨fun colonised => ⟨colonised, fun addressed => ?_⟩, RouterSpelled.colonised⟩
    rw [addressesIff.mpr addressed] at record
    contradiction
  | true =>
    have route : (moduleFor endpoint table).route = (Route.recordRoute endpoint.path).path := by
      simp [moduleFor, record]
    rw [route, recordPathSame]
    exact ⟨fun both => ⟨both.1, fun _ => both.2⟩,
      fun spelled => ⟨spelled.colonised, spelled.named (addressesIff.mp record)⟩⟩

def Listed (backend : Backend) (endpoint : Endpoint) (table : Table) : Prop :=
  Json.quoted (moduleFor endpoint table).route ∈
    (Auth.middleware backend.auth backend.endpoints).literals

/-- What the project holds for an open endpoint. A path that is registered as declared is listed, and a
respelled one only where a webhook is served there or another open endpoint declares it. -/
structure Open (backend : Backend) (project : Project) (endpoint : Endpoint) (table : Table) :
    Prop where
  module : ⟨"src/routes/" ++ Route.slug endpoint.path ++ ".ts", (moduleFor endpoint table).text⟩ ∈
    project.files
  registered : Text.contains (moduleFor endpoint table).text
    ((moduleFor endpoint table).routeLine ++ "\n") = true
  middleware :
    ⟨"src/middleware/auth.ts", (Auth.middleware backend.auth backend.endpoints).text⟩ ∈ project.resolved
  written : ∃ before after, (Auth.middleware backend.auth backend.endpoints).text = String.join
      ((before ++ (Auth.middleware backend.auth backend.endpoints).literals.map
        (fun literal => "    " ++ literal ++ ",") ++ after).map (· ++ "\n")) ∧
    before.getLast? = some "  publicRoutes: [" ∧ after.head? = some "  ],"
  declared : Json.quoted endpoint.path ∈ (Auth.middleware backend.auth backend.endpoints).literals
  listed : RouterSpelled endpoint → Listed backend endpoint table
  respelled : ¬ RouterSpelled endpoint → (Listed backend endpoint table ↔
    (moduleFor endpoint table).route ∈ Auth.webhookRoutes ∨
      ∃ other ∈ backend.endpoints, other.authenticated = false ∧ other.path ≠ endpoint.path ∧
        other.path = (moduleFor endpoint table).route)

theorem quotedListed {route : String} {auth : Auth} {endpoints : List Endpoint} :
    Json.quoted route ∈ (Auth.middleware auth endpoints).literals ↔
      route ∈ Auth.publicRoutes endpoints :=
  List.mem_map_of_injective fun _ _ => Json.quotedInjective.mp

theorem middlewareResolved :
    ⟨middlewarePath, (Auth.middleware backend.auth backend.endpoints).text⟩ ∈
      (generate backend config).resolved := by
  have fixed : middlewarePath ∈ fixedPaths := by decide
  have apart : middlewarePath ≠ routeIndexPath := by decide
  exact fixedResolved (by simp [emitted]) fixed apart

theorem openRoute (member : endpoint ∈ backend.endpoints) (unguarded : endpoint.authenticated = false)
    (owner : owner? endpoint.path backend.tables = some table) :
    Open backend (generate backend config) endpoint table := by
  have own : endpoint.path ∈ Auth.publicRoutes backend.endpoints :=
    memPublicRoutes.mpr (.inr ⟨endpoint, member, unguarded, rfl⟩)
  refine ⟨routeEmitted member owner, Route.Module.routeRegistered _, middlewareResolved,
    Auth.textListed _, quotedListed.mpr own, fun spelled => ?_, fun respelled => ?_⟩
  · rw [Listed, (registeredSame endpoint table).mpr spelled]
    exact quotedListed.mpr own
  · have differs : (moduleFor endpoint table).route ≠ endpoint.path :=
      mt (registeredSame endpoint table).mp respelled
    rw [Listed, quotedListed, memPublicRoutes]
    refine or_congr_right (exists_congr fun other => and_congr_right fun _ =>
      and_congr_right fun _ => ?_)
    exact ⟨fun same => ⟨same ▸ differs, same⟩, And.right⟩

/- The router spells the parameter of the second path otherwise, and the third gets one. -/
def pantry : Backend where
  tables := [⟨"User", [], []⟩]
  endpoints := [
    { path := "/users", method := .get, authenticated := false },
    { path := "/users/\x7bid\x7d", method := .get, authenticated := false },
    { path := "/users", method := .delete, authenticated := false }]

theorem pantryPublic : Auth.publicRoutes pantry.endpoints =
    ["/api/webhook/clerk", "/api/webhook/stripe", "/users", "/users/\x7bid\x7d"] := by
  rfl

theorem pantryOwned : owner? "/users" pantry.tables = some ⟨"User", [], []⟩ := by
  rfl

theorem pantryOpen : RouterSpelled pantry.endpoints[0] ∧
    Listed pantry pantry.endpoints[0] ⟨"User", [], []⟩ := by
  have registered : (moduleFor pantry.endpoints[0] ⟨"User", [], []⟩).route = "/users" := by rfl
  have spelled : RouterSpelled pantry.endpoints[0] := (registeredSame _ _).mp registered
  have first : Open pantry (generate pantry {}) pantry.endpoints[0] ⟨"User", [], []⟩ :=
    openRoute List.mem_cons_self rfl pantryOwned
  exact ⟨spelled, first.listed spelled⟩

structure Blocked (backend : Backend) (endpoint : Endpoint) (table : Table) : Prop where
  member : endpoint ∈ backend.endpoints
  unguarded : endpoint.authenticated = false
  owner : owner? endpoint.path backend.tables = some table
  unlisted : ¬ Listed backend endpoint table

theorem openRouteBlocked : Blocked pantry pantry.endpoints[1] ⟨"User", [], []⟩ ∧
    Blocked pantry pantry.endpoints[2] ⟨"User", [], []⟩ := by
  have unlisted : "/users/:id" ∉ Auth.publicRoutes pantry.endpoints := by
    rw [pantryPublic]
    decide
  exact ⟨⟨List.getElem_mem _, rfl, rfl, quotedListed.not.mpr unlisted⟩,
    ⟨List.getElem_mem _, rfl, pantryOwned, quotedListed.not.mpr unlisted⟩⟩

end Scaffold.Project
